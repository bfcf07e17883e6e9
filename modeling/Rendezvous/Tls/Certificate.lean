import Rendezvous.Tls.Der

namespace Rendezvous.Tls.Certificate

open Der

structure Extension where
  identifier : List UInt8
  critical : Bool
  value : List UInt8
deriving DecidableEq, Repr

inductive Topic where
  | keyUsage
  | subjectNames
  | basicConstraints
  | nameConstraints
  | revocationPoints
  | extendedKeyUsage
deriving DecidableEq, Repr

def Topic.all : List Topic :=
  [.keyUsage, .subjectNames, .basicConstraints, .nameConstraints, .revocationPoints,
    .extendedKeyUsage]

def Topic.number : Topic → UInt8
  | .keyUsage => 15
  | .subjectNames => 17
  | .basicConstraints => 19
  | .nameConstraints => 30
  | .revocationPoints => 31
  | .extendedKeyUsage => 37

namespace Extension

def ofParts? : List Element → Option Extension
  | [name, value] =>
    if name.tag = Tag.identifier ∧ value.tag = Tag.octets then
      some ⟨name.content, false, value.content⟩
    else none
  | [name, flag, value] =>
    if name.tag = Tag.identifier ∧ value.tag = Tag.octets then
      if flag = ⟨Tag.boolean, [0xFF]⟩ then some ⟨name.content, true, value.content⟩
      else if flag = ⟨Tag.boolean, [0]⟩ then some ⟨name.content, false, value.content⟩
      else none
    else none
  | _ => none

def topic? (e : Extension) : Option Topic :=
  Topic.all.find? fun t => e.identifier == [0x55, 0x1D, t.number]

/-- A value is one sequence, except that of the key usage. An extension about anything else must not
be critical. -/
def isAccepted (e : Extension) : Bool :=
  match e.topic? with
  | none => !e.critical
  | some .keyUsage => true
  | some _ =>
    match Der.read? e.value with
    | some (inner, []) => inner.tag == Tag.sequence
    | _ => false

end Extension

def extensions? (e : Element) : Option (List Extension) :=
  match e.parts? (Tag.context 3) with
  | some [list] =>
    (list.parts? Tag.sequence).bind fun es =>
      es.mapM fun x => (x.parts? Tag.sequence).bind Extension.ofParts?
  | _ => none

def acceptsAll (es : List Extension) : Bool :=
  es.all Extension.isAccepted && decide (es.filterMap Extension.topic?).Nodup

def acceptsRest : List Element → Bool
  | [] => true
  | [e] => (extensions? e).any acceptsAll
  | _ => false

def ofSigned? (signature : Element) : List Element → Option Element
  | version :: serial :: algorithm :: issuer :: validity :: subject :: key :: rest =>
    let sequences := [algorithm, issuer, validity, subject, key]
    if version.parts? (Tag.context 0) = some [⟨Tag.integer, [2]⟩] ∧ serial.tag = Tag.integer ∧
        sequences.all (·.tag == Tag.sequence) ∧ algorithm = signature ∧ acceptsRest rest then
      some key
    else none
  | _ => none

def greatestSize : Nat := 0xFFFE

def publicKey? (der : List UInt8) : Option Element :=
  match Der.read? der with
  | some (whole, []) =>
    match whole.parts? Tag.sequence with
    | some [signed, algorithm, signature] =>
      if whole.content.length ≤ greatestSize ∧ algorithm.tag = Tag.sequence ∧
          signature.tag = Tag.bits ∧ signature.content.head? = some 0 then
        (signed.parts? Tag.sequence).bind (ofSigned? algorithm)
      else none
    | _ => none
  | _ => none

end Rendezvous.Tls.Certificate
