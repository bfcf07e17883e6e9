import Rendezvous.Text.Base64
import Rendezvous.Text.Utf8

/-!
Sections between a line that begins them and one that ends them, with Base64 between. Sections of an
unknown kind are passed over, and their content is not looked at.
-/

namespace Rendezvous.Tls.Pem

inductive Kind where
  | certificate
  | publicKey
  | rsaPrivateKey
  | privateKey
  | ecPrivateKey
  | revocationList
  | request
  | helloConfig
deriving DecidableEq, Repr

abbrev Label := List UInt8

def Kind.all : List Kind :=
  [.certificate, .publicKey, .rsaPrivateKey, .privateKey, .ecPrivateKey, .revocationList, .request,
    .helloConfig]

def Kind.name : Kind → String
  | .certificate => "CERTIFICATE"
  | .publicKey => "PUBLIC KEY"
  | .rsaPrivateKey => "RSA PRIVATE KEY"
  | .privateKey => "PRIVATE KEY"
  | .ecPrivateKey => "EC PRIVATE KEY"
  | .revocationList => "X509 CRL"
  | .request => "CERTIFICATE REQUEST"
  | .helloConfig => "ECHCONFIG"

def Kind.isPrivateKey : Kind → Bool
  | .rsaPrivateKey | .privateKey | .ecPrivateKey => true
  | _ => false

def Kind.ofLabel? (l : Label) : Option Kind := Kind.all.find? fun k => Text.encode k.name == l

structure Section where
  kind : Kind
  der : List UInt8
deriving DecidableEq, Repr

inductive Fault where
  | beginning
  | unclosed
  | base64
deriving DecidableEq, Repr

def dash : UInt8 := 0x2D

def isLineEnd (b : UInt8) : Bool := b == 10 || b == 13

def lines : List UInt8 → List (List UInt8)
  | [] => []
  | b :: bs =>
    if isLineEnd b then [b] :: lines bs
    else
      match lines bs with
      | [] => [[b]]
      | l :: ls => (b :: l) :: ls

def opening : List UInt8 := Text.encode "-----BEGIN "

def isTrailer (b : UInt8) : Bool := b == dash || isLineEnd b || b == 0x20

def label? (line : List UInt8) : Except Fault Label :=
  let trailer := (line.reverse.takeWhile isTrailer).reverse
  let front := (line.reverse.dropWhile isTrailer).reverse
  if trailer.count dash = 5 then
    .ok ((front ++ trailer.takeWhile (· ≠ dash)).drop opening.length)
  else .error .beginning

def closing (l : Label) : List UInt8 := Text.encode "-----END " ++ l ++ Text.encode "-----"

def isFiller (b : UInt8) : Bool := (9 ≤ b && b ≤ 13) || b == 0x20

def decode? (body : List UInt8) : Option (List UInt8) :=
  Text.Base64.decodeChars ((body.filter fun b => !isFiller b).map fun b => Char.ofNat b.toNat)

/-- The sections up to the first fault. `current` is the label of the section that is open; another
beginning inside it changes the label only. -/
def scan (current : Option Label) (body : List UInt8) :
    List (List UInt8) → List Section × Option Fault
  | [] => ([], current.map fun _ => .unclosed)
  | line :: rest =>
    if opening.isPrefixOf line then
      match label? line with
      | .error f => ([], some f)
      | .ok l => scan (some l) body rest
    else
      match current with
      | none => scan none [] rest
      | some l =>
        if (closing l).isPrefixOf line then
          match Kind.ofLabel? l with
          | none => scan none [] rest
          | some k =>
            match decode? body with
            | none => ([], some .base64)
            | some der =>
              let (sections, fault) := scan none [] rest
              (⟨k, der⟩ :: sections, fault)
        else scan (some l) (body ++ line) rest

def sections (file : List UInt8) : List Section × Option Fault := scan none [] (lines file)

def certificates (file : List UInt8) : Except Fault (List (List UInt8)) :=
  match sections file with
  | (_, some f) => .error f
  | (found, none) => .ok ((found.filter fun s => s.kind == .certificate).map Section.der)

def privateKey? (file : List UInt8) : Except Fault (Option Section) :=
  let (found, fault) := sections file
  match found.find? fun s => s.kind.isPrivateKey, fault with
  | some s, _ => .ok (some s)
  | none, some f => .error f
  | none, none => .ok none

end Rendezvous.Tls.Pem
