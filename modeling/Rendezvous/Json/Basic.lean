import Rendezvous.Binary64

/-!
A `Document` keeps what was written: members in order and with repetitions, and numbers as numerals.
A `Value` is what a document means, or what is to be written.
-/

namespace Rendezvous.Json

inductive Tree (ν : Type) where
  | null
  | boolean (b : Bool)
  | number (n : ν)
  | text (s : String)
  | array (items : List (Tree ν))
  | object (members : List (String × Tree ν))
deriving Repr

structure Numeral where
  negative : Bool := false
  whole : List Nat
  fraction : List Nat := []
  exponent : Option (Bool × List Nat) := none
deriving DecidableEq, Repr

def Numeral.isInteger (n : Numeral) : Bool := n.fraction.isEmpty && n.exponent.isNone

inductive Number where
  | integer (n : Int)
  | real (x : Binary64)
deriving DecidableEq, Repr

abbrev Document := Tree Numeral
abbrev Value := Tree Number

namespace Tree

section Equality

variable {ν : Type} [DecidableEq ν]

mutual

def beq : Tree ν → Tree ν → Bool
  | .null, .null => true
  | .boolean a, .boolean b => a == b
  | .number m, .number n => m == n
  | .text s, .text t => s == t
  | .array xs, .array ys => beqItems xs ys
  | .object ms, .object ns => beqMembers ms ns
  | _, _ => false

def beqItems : List (Tree ν) → List (Tree ν) → Bool
  | [], [] => true
  | x :: xs, y :: ys => x.beq y && beqItems xs ys
  | _, _ => false

def beqMembers : List (String × Tree ν) → List (String × Tree ν) → Bool
  | [], [] => true
  | (k, x) :: ms, (l, y) :: ns => k == l && x.beq y && beqMembers ms ns
  | _, _ => false

end

mutual

theorem beq_iff : (s t : Tree ν) → (s.beq t = true ↔ s = t)
  | .null, t | .boolean _, t | .number _, t | .text _, t => by cases t <;> simp [beq]
  | .array xs, t => by cases t <;> simp [beq, beqItems_iff xs]
  | .object ms, t => by cases t <;> simp [beq, beqMembers_iff ms]

theorem beqItems_iff : (xs ys : List (Tree ν)) → (beqItems xs ys = true ↔ xs = ys)
  | [], ys => by cases ys <;> simp [beqItems]
  | x :: xs, ys => by cases ys <;> simp [beqItems, beq_iff x, beqItems_iff xs]

theorem beqMembers_iff : (ms ns : List (String × Tree ν)) → (beqMembers ms ns = true ↔ ms = ns)
  | [], ns => by cases ns <;> simp [beqMembers]
  | (k, x) :: ms, ns => by
    cases ns <;> simp [beqMembers, Prod.ext_iff, beq_iff x, beqMembers_iff ms, and_assoc]

end

instance : DecidableEq (Tree ν) := fun s t => decidable_of_iff _ (beq_iff s t)

end Equality

variable {ν : Type}

def lastMember? (key : String) (members : List (String × Tree ν)) : Option (Tree ν) :=
  members.foldl (fun found m => if m.1 == key then some m.2 else found) none

def member? (key : String) : Tree ν → Option (Tree ν)
  | .object members => lastMember? key members
  | _ => none

def text? : Tree ν → Option String
  | .text s => some s
  | _ => none

theorem lastMember?_append (key : String) (xs : List (String × Tree ν)) (m : String × Tree ν) :
    lastMember? key (xs ++ [m]) = if m.1 == key then some m.2 else lastMember? key xs := by
  simp [lastMember?]

end Tree

end Rendezvous.Json
