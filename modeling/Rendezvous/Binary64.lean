namespace Rendezvous

/-- The number `± significand · 2 ^ exponent`. -/
structure Binary64 where
  negative : Bool
  significand : Nat
  exponent : Int
deriving DecidableEq, Repr

namespace Binary64

def leastExponent : Int := -1074
def greatestExponent : Int := 971

def zero : Binary64 := ⟨false, 0, leastExponent⟩

def isZero (x : Binary64) : Bool := x.significand == 0

def neg (x : Binary64) : Binary64 := { x with negative := !x.negative }

def divRound (a b : Nat) : Nat :=
  let q := a / b
  let r := 2 * (a % b)
  if r < b || (r == b && q % 2 == 0) then q else q + 1

def scaled (num den : Nat) (e : Int) : Nat × Nat :=
  if 0 ≤ e then (num, den * Nat.pow 2 e.toNat) else (num * Nat.pow 2 (-e).toNat, den)

def leastNormal : Nat := 0x10000000000000

def significandEnd : Nat := 0x20000000000000

def ofRatio? (negative : Bool) (num den : Nat) : Option Binary64 :=
  if num == 0 then some ⟨negative, 0, leastExponent⟩
  else
    let guess : Int := (num.log2 : Int) - den.log2 - 53
    let (a, b) := scaled num den guess
    let e := max (if significandEnd * b ≤ a then guess + 1 else guess) leastExponent
    let (a, b) := scaled num den e
    let m := divRound a b
    let (m, e) := if m == significandEnd then (leastNormal, e + 1) else (m, e)
    if greatestExponent < e then none else some ⟨negative, m, e⟩

def ofNat? (n : Nat) : Option Binary64 := ofRatio? false n 1

def mul? (x y : Binary64) : Option Binary64 :=
  let (a, b) := scaled (x.significand * y.significand) 1 (-(x.exponent + y.exponent))
  ofRatio? (x.negative != y.negative) a b

def div? (x y : Binary64) : Option Binary64 :=
  let (a, b) := scaled x.significand y.significand (y.exponent - x.exponent)
  ofRatio? (x.negative != y.negative) a b

end Binary64

end Rendezvous
