import Rendezvous.Curve.Modular
import Rendezvous.Digest.Sha512

namespace Rendezvous.Curve.Edwards

def prime : Nat := 0x7fffffffffffffffffffffffffffffffffffffffffffffffffffffffffffffed

structure Point where
  x : Nat
  y : Nat
deriving DecidableEq, Repr

def neutral : Point := ⟨0, 1⟩

def base : Point where
  x := 0x216936d3cd6e53fec0a4e231fdd6dc5c692cc7609525a7b2c9562d608f25d51a
  y := 0x6666666666666666666666666666666666666666666666666666666666666658

def factor : Nat := 0x52036cee2b6ffe738cc740797779e89800700a4d4141d8ab75eb4dca135978a3

def add (q r : Point) : Point :=
  let p := prime
  let product := factor * (q.x * r.x % p) * (q.y * r.y % p) % p
  ⟨(q.x * r.y + r.x * q.y) * inverse p ((1 + product) % p) % p,
    (q.y * r.y + q.x * r.x) * inverse p (subtract p 1 product) % p⟩

def multiply (n : Nat) (q : Point) : Point :=
  if n = 0 then neutral
  else
    let rest := multiply (n / 2) (add q q)
    if n % 2 = 1 then add q rest else rest
termination_by n

def octets : Nat → Nat → List UInt8
  | 0, _ => []
  | size + 1, n => UInt8.ofNat n :: octets size (n / 0x100)

def number (bs : List UInt8) : Nat := bs.foldr (fun b n => n * 0x100 + b.toNat) 0

def Point.encode (q : Point) : List UInt8 :=
  octets 32 (q.y + (q.x % 2) * 0x8000000000000000000000000000000000000000000000000000000000000000)

def scalar (seed : List UInt8) : Nat :=
  let low := number ((Digest.Sha512.hash seed).take 32)
  let top := 0x4000000000000000000000000000000000000000000000000000000000000000
  low % top / 8 * 8 + top

def publicKey (seed : List UInt8) : List UInt8 := (multiply (scalar seed) base).encode

end Rendezvous.Curve.Edwards
