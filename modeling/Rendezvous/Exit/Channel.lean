import Rendezvous.Exit.Reason

/-!
A stop notice between processes: clients call one after the other, and a wait takes calls until one
gives a reason. Later calls are left for the next wait.
-/

namespace Rendezvous.Exit

abbrev Call := List UInt8

def Call.reason? (c : Call) : Option Reason := c.head?.bind Reason.ofOctet?

def Call.ofReason (r : Reason) : Call := [r.octet]

structure Channel where
  pending : List Call := []
deriving DecidableEq, Repr

namespace Channel

def empty : Channel := {}

def receive (ch : Channel) (c : Call) : Channel := ⟨ch.pending ++ [c]⟩

def firstReason : List Call → Option Reason × List Call
  | [] => (none, [])
  | c :: cs =>
    match c.reason? with
    | some r => (some r, cs)
    | none => firstReason cs

def wait (ch : Channel) : Option Reason × Channel :=
  let (reason, rest) := firstReason ch.pending
  (reason, ⟨rest⟩)

theorem firstReason_fst (cs : List Call) : (firstReason cs).1 = cs.findSome? Call.reason? := by
  induction cs with
  | nil => rfl
  | cons c cs ih =>
    rw [firstReason, List.findSome?_cons]
    cases c.reason? <;> simp [ih]

theorem firstReason_append {cs : List Call} (h : ∀ c ∈ cs, c.reason? = none) (ds : List Call) :
    firstReason (cs ++ ds) = firstReason ds := by
  induction cs with
  | nil => rfl
  | cons c cs ih =>
    rw [List.cons_append, firstReason, h c (by simp)]
    exact ih fun d hd => h d (by simp [hd])

theorem firstReason_cons {c : Call} {r : Reason} (h : c.reason? = some r) (cs : List Call) :
    firstReason (c :: cs) = (some r, cs) := by simp [firstReason, h]

end Channel

end Rendezvous.Exit
