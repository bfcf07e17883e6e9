import Rendezvous.Clock
import Rendezvous.Post

namespace Rendezvous

structure StopFlag where
  isRaised : Bool := false
deriving DecidableEq, Repr

def StopFlag.raise (_ : StopFlag) : StopFlag := ⟨true⟩

def StopFlag.wait (f : StopFlag) : Bool := f.isRaised

namespace Keepalive

structure Wait where
  start : Clock.Seconds
  raised : Bool
deriving DecidableEq, Repr

inductive Progress where
  | stopped (rounds : Nat)
  | overflow (rounds : Nat)
  | waiting (rounds : Nat)
deriving DecidableEq, Repr

def run (interval : Clock.Seconds) (r : Registry) : Nat → List Wait → Post → Progress × Post
  | n, [], p => (.waiting n, p)
  | n, w :: ws, p =>
    match Clock.after? w.start interval with
    | none => (.overflow n, p)
    | some _ => if w.raised then (.stopped n, p) else run interval r (n + 1) ws (p.pingAll r).2

end Keepalive

end Rendezvous
