import Rendezvous.Binary64

namespace Rendezvous.Binary64

structure Digits where
  digits : List Nat
  exponent : Int
deriving DecidableEq, Repr

structure Ratio where
  num : Nat
  den : Nat

namespace Ratio

def le (a b : Ratio) : Bool := a.num * b.den ≤ b.num * a.den
def lt (a b : Ratio) : Bool := a.num * b.den < b.num * a.den

def timesPow10 (a : Ratio) (k : Int) : Ratio :=
  if 0 ≤ k then ⟨a.num * Nat.pow 10 k.toNat, a.den⟩ else ⟨a.num, a.den * Nat.pow 10 (-k).toNat⟩

def leadingExponent (a : Ratio) : Nat → Int → Int
  | 0, low => low
  | n + 1, low =>
    if le (timesPow10 ⟨1, 1⟩ (low + 1)) a then leadingExponent a n (low + 1) else low

end Ratio

structure Interval where
  low : Ratio
  high : Ratio
  closed : Bool

def Interval.holds (i : Interval) (a : Ratio) : Bool :=
  if i.closed then i.low.le a && a.le i.high else i.low.lt a && a.lt i.high

def quarter (n : Nat) (e : Int) : Ratio :=
  let (num, den) := scaled n 1 (2 - e)
  ⟨num, den⟩

def interval (x : Binary64) : Interval :=
  let m := x.significand
  let below := if m == leastNormal && leastExponent < x.exponent then 1 else 2
  ⟨quarter (4 * m - below) x.exponent, quarter (4 * m + 2) x.exponent, m % 2 == 0⟩

def digitsOf (n : Nat) : List Nat := (Nat.toDigits 10 n).map (fun c => c.toNat - 48)

def dropTrailingZeros (ds : List Nat) : List Nat := (ds.reverse.dropWhile (· == 0)).reverse

def onGrid (v : Ratio) (i : Interval) (k : Int) (count : Nat) : Option Nat :=
  let unit := k - (count : Int) + 1
  let s := v.timesPow10 (-unit)
  let c := s.num / s.den
  let point (n : Nat) : Ratio := Ratio.timesPow10 ⟨n, 1⟩ unit
  let twice := 2 * (s.num % s.den)
  let lowerNearer := twice < s.den || (twice == s.den && c % 2 == 0)
  match i.holds (point c), i.holds (point (c + 1)) with
  | true, true => some (if lowerNearer then c else c + 1)
  | true, false => some c
  | false, true => some (c + 1)
  | false, false => none

def shortestFrom (v : Ratio) (i : Interval) (k : Int) : Nat → Nat → Nat × Nat
  | 0, count => ((v.timesPow10 (count - 1 - k)).num / (v.timesPow10 (count - 1 - k)).den, count)
  | fuel + 1, count =>
    match onGrid v i k count with
    | some c => (c, count)
    | none => shortestFrom v i k fuel (count + 1)

def shortest (x : Binary64) : Digits :=
  let v := quarter (4 * x.significand) x.exponent
  let k := v.leadingExponent 640 (-324)
  let (c, count) := shortestFrom v (interval x) k 17 1
  let ds := digitsOf c
  ⟨dropTrailingZeros ds, k + (ds.length - count : Int)⟩

end Rendezvous.Binary64
