import Rendezvous.Json.Basic

/-!
What a numeral stands for. Integers of 64 bits are exact. Everything else is a double: the digits
that fit 64 bits are taken as a whole number and scaled by one power of ten, each step rounded.
-/

namespace Rendezvous.Json

def greatestWord : Nat := 0xFFFFFFFFFFFFFFFF
def leastInteger : Int := -0x8000000000000000

/-- Leading digits while the number stays within 64 bits, and how many digits are left over. -/
def takeWhole : Nat → List Nat → Nat × Nat
  | n, [] => (n, 0)
  | n, d :: ds =>
    if n * 10 + d ≤ greatestWord then takeWhole (n * 10 + d) ds else (n, ds.length + 1)

def takeFraction : Nat → Int → List Nat → Nat × Int
  | n, e, [] => (n, e)
  | n, e, d :: ds =>
    if n * 10 + d ≤ greatestWord then takeFraction (n * 10 + d) (e - 1) ds else (n, e)

def natOfDigits (ds : List Nat) : Nat := ds.foldl (fun n d => n * 10 + d) 0

def powerOfTen (k : Nat) : Binary64 := (Binary64.ofNat? (Nat.pow 10 k)).getD .zero

def greatestPower : Nat := 308

def scale? (x : Binary64) (e : Int) : Option Binary64 :=
  if e.natAbs ≤ greatestPower then
    if 0 ≤ e then x.mul? (powerOfTen e.toNat) else x.div? (powerOfTen e.natAbs)
  else if x.isZero then some x
  else if 0 ≤ e then none
  else (x.div? (powerOfTen greatestPower)).bind fun y => scale? y (e + greatestPower)
termination_by e.natAbs
decreasing_by simp only [greatestPower] at *; omega

namespace Numeral

def real? (n : Numeral) : Option Binary64 :=
  let (w, left) := takeWhole 0 n.whole
  let (m, e) := takeFraction w left n.fraction
  let shift : Int := match n.exponent with
    | none => 0
    | some (negative, ds) => if negative then -(natOfDigits ds) else natOfDigits ds
  (Binary64.ofNat? m).bind fun x =>
    (scale? x (e + shift)).map fun y => if n.negative then y.neg else y

/-- The integer, if the numeral has no fraction and no exponent and its value fits 64 bits;
minus zero is no integer. -/
def integer? (n : Numeral) : Option Int :=
  if n.isInteger then
    let m := natOfDigits n.whole
    if n.negative then
      if m ≠ 0 ∧ leastInteger ≤ -m then some (-m) else none
    else if m ≤ greatestWord then some m else none
  else none

def number? (n : Numeral) : Option Number :=
  match n.integer? with
  | some i => some (.integer i)
  | none => n.real?.map .real

end Numeral

def putMember {α : Type} (key : String) (x : α) : List (String × α) → List (String × α)
  | [] => [(key, x)]
  | m :: ms =>
    if key < m.1 then (key, x) :: m :: ms
    else if key == m.1 then (key, x) :: ms
    else m :: putMember key x ms

mutual

def Document.value? : Tree Numeral → Option Value
  | .null => some .null
  | .boolean b => some (.boolean b)
  | .number n => n.number?.map .number
  | .text s => some (.text s)
  | .array items => (Document.values? items).map .array
  | .object members => (Document.members? members).map fun ms =>
      .object (ms.foldl (fun acc m => putMember m.1 m.2 acc) [])

def Document.values? : List (Tree Numeral) → Option (List Value)
  | [] => some []
  | d :: ds =>
    match Document.value? d with
    | none => none
    | some v => (Document.values? ds).map (v :: ·)

def Document.members? : List (String × Tree Numeral) → Option (List (String × Value))
  | [] => some []
  | (k, d) :: ds =>
    match Document.value? d with
    | none => none
    | some v => (Document.members? ds).map ((k, v) :: ·)

end

end Rendezvous.Json
