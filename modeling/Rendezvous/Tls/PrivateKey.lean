import Rendezvous.Tls.Pem
import Rendezvous.Tls.Rsa

namespace Rendezvous.Tls.PrivateKey

open Der

def fullOctets? (e : Element) : Option (List UInt8) :=
  match e with
  | ⟨_, 0 :: bs⟩ => some bs
  | _ => none

def statedPoint? (c : NamedCurve) (rest : List Element) : Option (List UInt8) :=
  let name : Element := ⟨Tag.context 0, c.identifier.encode⟩
  match if rest.head? = some name then rest.drop 1 else rest with
  | [e] =>
    match e.parts? (Tag.context 1) with
    | some [bits] => if bits.tag = Tag.bits then fullOctets? bits else none
    | _ => none
  | _ => none

def ofCurve? (c : NamedCurve) (der : List UInt8) : Option Element :=
  match Der.parts? der with
  | some (version :: secret :: rest) =>
    if version = ⟨Tag.integer, [1]⟩ ∧ secret.tag = Tag.octets then
      match c.publicPoint? secret.content, statedPoint? c rest with
      | some point, some stated =>
        if point = stated then some (publicKey (Algorithm.curve c) point) else none
      | _, _ => none
    else none
  | _ => none

def statedHalf? : List Element → Option (List UInt8)
  | [e] =>
    if e.tag = 0x81 then fullOctets? e
    else
      match e.parts? (Tag.context 1) with
      | some [bits] => if bits.tag = Tag.bits then fullOctets? bits else none
      | _ => none
  | _ => none

def ofEdwards? (version : UInt8) (key : List UInt8) (rest : List Element) : Option Element :=
  match Der.read? key with
  | some (⟨tag, seed⟩, []) =>
    if tag = Tag.octets ∧ seed.length = 32 then
      let half := Curve.Edwards.publicKey seed
      let isStated := if version = 0 then rest.isEmpty else statedHalf? rest == some half
      if isStated then some (publicKey Algorithm.edwards half) else none
    else none
  | _ => none

def dropAttributes : List Element → List Element
  | e :: rest => if e.tag = Tag.context 0 then rest else e :: rest
  | [] => []

def ofNamed? (der : List UInt8) : Option Element :=
  match Der.parts? der with
  | some (⟨kind, [version]⟩ :: algorithm :: ⟨octets, key⟩ :: rest) =>
    let rest := dropAttributes rest
    if kind = Tag.integer ∧ octets = Tag.octets ∧ version ≤ 1 then
      if algorithm = Algorithm.edwards then ofEdwards? version key rest
      else if version = 0 ∧ rest = [] then
        if algorithm = Algorithm.rsa then (RsaKey.read? key).map RsaKey.publicKey
        else
          (NamedCurve.all.find? fun c => algorithm = Algorithm.curve c).bind fun c => ofCurve? c key
      else none
    else none
  | _ => none

def publicKey? (s : Pem.Section) : Option Element :=
  match s.kind with
  | .privateKey => ofNamed? s.der
  | .ecPrivateKey => NamedCurve.all.findSome? fun c => ofCurve? c s.der
  | .rsaPrivateKey => (RsaKey.read? s.der).map RsaKey.publicKey
  | _ => none

end Rendezvous.Tls.PrivateKey
