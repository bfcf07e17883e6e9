import Rendezvous.Tls.Certificate
import Rendezvous.Tls.PrivateKey

/-!
The files of the encrypted listener: a chain of certificates, the private key of the first of them,
and parameters that have to be there but are not used.
-/

namespace Rendezvous.Tls

structure Paths where
  certificate : String
  key : String
  dhParameters : Option String
deriving DecidableEq, Repr

inductive Reason where
  | missing
  | unreadable
  | noCertificate
  | noPrivateKey
  | noDhParameters
deriving DecidableEq, Repr

def Reason.text : Reason → String
  | .missing => "No such file or directory (os error 2)"
  | .unreadable => "Parsing fehlgeschlagen"
  | .noCertificate => "kein Zertifikat gefunden"
  | .noPrivateKey => "kein privater Schluessel gefunden"
  | .noDhParameters => "keine DH-Parameter im PEM gefunden"

inductive Fault where
  | material (path : String) (reason : Reason)
  | mismatch
deriving DecidableEq, Repr

def Fault.message : Fault → String
  | .material path reason => "TLS-Material '" ++ path ++ "' unbrauchbar: " ++ reason.text
  | .mismatch => "TLS-Konfiguration ungueltig"

structure Identity where
  chain : List (List UInt8)
  key : Pem.Section
deriving DecidableEq, Repr

def protocols : List String := ["http/1.1"]

def suites : List String :=
  ["TLS13_AES_128_GCM_SHA256",
    "TLS13_AES_256_GCM_SHA384",
    "TLS13_CHACHA20_POLY1305_SHA256",
    "TLS_ECDHE_ECDSA_WITH_AES_128_GCM_SHA256",
    "TLS_ECDHE_RSA_WITH_AES_128_GCM_SHA256",
    "TLS_ECDHE_ECDSA_WITH_AES_256_GCM_SHA384",
    "TLS_ECDHE_RSA_WITH_AES_256_GCM_SHA384",
    "TLS_ECDHE_ECDSA_WITH_CHACHA20_POLY1305_SHA256",
    "TLS_ECDHE_RSA_WITH_CHACHA20_POLY1305_SHA256"]

def dhMark : List UInt8 := Text.encode "-----BEGIN DH PARAMETERS-----"

def hasDhParameters : List UInt8 → Bool
  | [] => false
  | b :: bs => dhMark.isPrefixOf (b :: bs) || hasDhParameters bs

def readChain (file : List UInt8) : Except Reason (List (List UInt8)) :=
  match Pem.certificates file with
  | .error _ => .error .unreadable
  | .ok [] => .error .noCertificate
  | .ok chain => .ok chain

def readKey (file : List UInt8) : Except Reason Pem.Section :=
  match Pem.privateKey? file with
  | .error _ => .error .unreadable
  | .ok none => .error .noPrivateKey
  | .ok (some key) => .ok key

def Identity.isConsistent (i : Identity) : Bool :=
  match i.chain.head?.bind Certificate.publicKey?, PrivateKey.publicKey? i.key with
  | some a, some b => a == b
  | _, _ => false

def open? (file? : String → Option (List UInt8)) (path : String) : Except Fault (List UInt8) :=
  match file? path with
  | none => .error (.material path .missing)
  | some file => .ok file

def checkDhParameters (file? : String → Option (List UInt8)) : Option String → Except Fault Unit
  | none => .ok ()
  | some path =>
    match open? file? path with
    | .error f => .error f
    | .ok file => if hasDhParameters file then .ok () else .error (.material path .noDhParameters)

def Identity.read (chainFile keyFile : List UInt8) : Except Reason Identity := do
  let chain ← readChain chainFile
  let key ← readKey keyFile
  return ⟨chain, key⟩

/-- All files have to be there before any is read closely. Whatever is wrong inside the first two is
said of the certificate's. -/
def load (file? : String → Option (List UInt8)) (p : Paths) : Except Fault Identity := do
  let chainFile ← open? file? p.certificate
  let keyFile ← open? file? p.key
  checkDhParameters file? p.dhParameters
  match Identity.read chainFile keyFile with
  | .error reason => .error (.material p.certificate reason)
  | .ok i => if i.isConsistent then .ok i else .error .mismatch

end Rendezvous.Tls
