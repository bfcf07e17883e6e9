import Rendezvous.Tls.PublicKey

namespace Rendezvous.Tls

open Der

structure RsaKey where
  modulus : Nat
  exponent : Nat
  secret : Nat
  first : Nat
  second : Nat
  firstSecret : Nat
  secondSecret : Nat
  inverse : Nat
deriving DecidableEq, Repr

namespace RsaKey

def sizeOf (n : Nat) : Nat := if n = 0 then 0 else n.log2 + 1

def isOdd (n : Nat) : Bool := n % 2 == 1

def hasModulus (k : RsaKey) : Bool :=
  isOdd k.modulus && 2040 < sizeOf k.modulus && sizeOf k.modulus ≤ 4096

def hasExponent (k : RsaKey) : Bool :=
  isOdd k.exponent && 0x10001 ≤ k.exponent && k.exponent ≤ 0x1FFFFFFFF

def isFactor (k : RsaKey) (n : Nat) : Bool :=
  isOdd n && sizeOf n == (sizeOf k.modulus + 1) / 2 && sizeOf n % 512 == 0

def isSound (k : RsaKey) : Bool :=
  k.hasModulus && k.hasExponent && k.isFactor k.first && k.isFactor k.second &&
    k.first * k.second % k.modulus == 0 &&
    isOdd k.secret && (sizeOf k.modulus + 1) / 2 < sizeOf k.secret && k.secret < k.modulus &&
    isOdd k.firstSecret && k.firstSecret < k.first &&
    isOdd k.secondSecret && k.secondSecret < k.second &&
    k.inverse < k.first && k.inverse * k.second % k.first == 1

def ofParts? : List Element → Option RsaKey
  | version :: numbers =>
    if version = ⟨Tag.integer, [0]⟩ then
      match numbers.mapM Der.natural? with
      | some [n, e, d, p, q, dp, dq, i] => some ⟨n, e, d, p, q, dp, dq, i⟩
      | _ => none
    else none
  | [] => none

def read? (der : List UInt8) : Option RsaKey :=
  ((Der.parts? der).bind ofParts?).filter isSound

def publicKey (k : RsaKey) : Element :=
  Tls.publicKey Algorithm.rsa
    (Der.sequence [Der.integer k.modulus, Der.integer k.exponent]).encode

end RsaKey

end Rendezvous.Tls
