import Rendezvous.Curve.Modular

namespace Rendezvous.Curve

inductive Point where
  | infinity
  | affine (x y : Nat)
deriving DecidableEq, Repr

structure Weierstrass where
  prime : Nat
  linear : Nat
  order : Nat
  size : Nat
  base : Point
deriving DecidableEq, Repr

namespace Weierstrass

def onLine (c : Weierstrass) (slope x y u : Nat) : Point :=
  let p := c.prime
  let third := subtract p (slope * slope) ((x + u) % p)
  .affine third (subtract p (slope * subtract p x third) y)

def add (c : Weierstrass) : Point → Point → Point
  | .infinity, q => q
  | q, .infinity => q
  | .affine x y, .affine u v =>
    let p := c.prime
    if x = u then
      if (y + v) % p = 0 then .infinity
      else c.onLine ((3 * x * x + c.linear) * inverse p (2 * y % p) % p) x y u
    else c.onLine (subtract p v y * inverse p (subtract p u x) % p) x y u

def multiply (c : Weierstrass) (n : Nat) (q : Point) : Point :=
  if n = 0 then .infinity
  else
    let rest := c.multiply (n / 2) (c.add q q)
    if n % 2 = 1 then c.add q rest else rest
termination_by n

def publicPoint? (c : Weierstrass) (secret : Nat) : Option Point :=
  if 0 < secret ∧ secret < c.order then some (c.multiply secret c.base) else none

def p256 : Weierstrass where
  prime := 0xffffffff00000001000000000000000000000000ffffffffffffffffffffffff
  linear := 0xffffffff00000001000000000000000000000000fffffffffffffffffffffffc
  order := 0xffffffff00000000ffffffffffffffffbce6faada7179e84f3b9cac2fc632551
  size := 32
  base := .affine
    0x6b17d1f2e12c4247f8bce6e563a440f277037d812deb33a0f4a13945d898c296
    0x4fe342e2fe1a7f9b8ee7eb4a7c0f9e162bce33576b315ececbb6406837bf51f5

def p384Prime : Nat :=
  0xfffffffffffffffffffffffffffffffffffffffffffffffffffffffffffffffeffffffff0000000000000000ffffffff

def p384Order : Nat :=
  0xffffffffffffffffffffffffffffffffffffffffffffffffc7634d81f4372ddf581a0db248b0a77aecec196accc52973

def p384X : Nat :=
  0xaa87ca22be8b05378eb1c71ef320ad746e1d3b628ba79b9859f741e082542a385502f25dbf55296c3a545e3872760ab7

def p384Y : Nat :=
  0x3617de4a96262c6f5d9e98bf9292dc29f8f41dbd289a147ce9da3113b5f0b8c00a60b1ce1d7e819d7a431d7c90ea0e5f

def p384 : Weierstrass where
  prime := p384Prime
  linear := p384Prime - 3
  order := p384Order
  size := 48
  base := .affine p384X p384Y

end Weierstrass

end Rendezvous.Curve
