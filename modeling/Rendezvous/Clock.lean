/-!
The monotonic clock. It counts seconds in 64 bits with a sign, so there is a last point in time.
-/

namespace Rendezvous.Clock

abbrev Seconds := Nat

def last : Seconds := 0x7FFFFFFFFFFFFFFF

def after? (now wait : Seconds) : Option Seconds :=
  if now + wait ≤ last then some (now + wait) else none

theorem after?_eq_none_iff {now wait : Seconds} : after? now wait = none ↔ last < now + wait := by
  simp [after?]

theorem after?_eq_some_iff {now wait t : Seconds} :
    after? now wait = some t ↔ t = now + wait ∧ now + wait ≤ last := by
  simp [after?, eq_comm, and_comm]

end Rendezvous.Clock
