import Rendezvous.Curve.Edwards
import Rendezvous.Curve.Weierstrass
import Rendezvous.Tls.Der

namespace Rendezvous.Tls

open Der

def lowOctets (size n : Nat) : List UInt8 := (Curve.Edwards.octets size n).reverse

inductive NamedCurve where
  | p256
  | p384
deriving DecidableEq, Repr

namespace NamedCurve

def all : List NamedCurve := [p256, p384]

def identifier : NamedCurve → Element
  | p256 => ⟨Tag.identifier, [0x2A, 0x86, 0x48, 0xCE, 0x3D, 0x03, 0x01, 0x07]⟩
  | p384 => ⟨Tag.identifier, [0x2B, 0x81, 0x04, 0x00, 0x22]⟩

def curve : NamedCurve → Curve.Weierstrass
  | p256 => .p256
  | p384 => .p384

def encode? (c : NamedCurve) : Curve.Point → Option (List UInt8)
  | .infinity => none
  | .affine x y => some (4 :: lowOctets c.curve.size x ++ lowOctets c.curve.size y)

def publicPoint? (c : NamedCurve) (secret : List UInt8) : Option (List UInt8) :=
  if secret.length = c.curve.size then (c.curve.publicPoint? (Der.numberOf secret)).bind c.encode?
  else none

end NamedCurve

namespace Algorithm

def curve (c : NamedCurve) : Element :=
  Der.sequence [⟨Tag.identifier, [0x2A, 0x86, 0x48, 0xCE, 0x3D, 0x02, 0x01]⟩, c.identifier]

def rsa : Element :=
  Der.sequence [⟨Tag.identifier, [0x2A, 0x86, 0x48, 0x86, 0xF7, 0x0D, 0x01, 0x01, 0x01]⟩,
    ⟨Tag.null, []⟩]

def edwards : Element := Der.sequence [⟨Tag.identifier, [0x2B, 0x65, 0x70]⟩]

end Algorithm

def publicKey (algorithm : Element) (key : List UInt8) : Element :=
  Der.sequence [algorithm, ⟨Tag.bits, 0 :: key⟩]

end Rendezvous.Tls
