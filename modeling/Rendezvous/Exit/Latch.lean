import Rendezvous.Exit.Reason

namespace Rendezvous.Exit

structure Latch where
  reason : Option Reason := none
deriving DecidableEq, Repr

namespace Latch

def empty : Latch := {}

def post (l : Latch) (r : Reason) : Latch := ⟨l.reason.or (some r)⟩

def postAll (l : Latch) (rs : List Reason) : Latch := rs.foldl post l

def wait (l : Latch) : Option Reason := l.reason

theorem wait_postAll (l : Latch) (rs : List Reason) : (l.postAll rs).wait = l.wait.or rs.head? := by
  induction rs generalizing l with
  | nil => cases h : l.reason <;> simp [postAll, wait, h]
  | cons r rs ih =>
    have := ih (l.post r)
    cases h : l.reason <;> simp_all [postAll, wait, post]

end Latch

end Rendezvous.Exit
