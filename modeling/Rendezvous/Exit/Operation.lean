import Rendezvous.Exit.Sockets

namespace Rendezvous.Exit

inductive Operation where
  | listen (name : String)
  | close (name : String)
  | orphan (name : String)
  | call (name : String) (c : Call)
  | stop (name : String)
  | abort (name : String)
  | wait (name : String)
deriving DecidableEq, Repr

inductive Result where
  | listened (r : Except Fault String)
  | closed (wasOpen : Bool)
  | orphaned (isNew : Bool)
  | called (r : Except Fault Unit)
  | stopped (r : Except Fault Bool)
  | aborted
  | waited (r : Option Reason)

namespace Sockets

def perform (s : Sockets) : Operation → Result × Sockets
  | .listen name => let (r, s) := s.listen name; (.listened r, s)
  | .close name => let (r, s) := s.close name; (.closed r, s)
  | .orphan name => let (r, s) := s.orphan name; (.orphaned r, s)
  | .call name c => let (r, s) := s.call name c; (.called r, s)
  | .stop name => let (r, s) := s.stop name; (.stopped r, s)
  | .abort name => (.aborted, s.abort name)
  | .wait name => let (r, s) := s.wait name; (.waited r, s)

def run (s : Sockets) : List Operation → List Result × Sockets
  | [] => ([], s)
  | o :: os =>
    let (r, s) := s.perform o
    let (rs, s) := run s os
    (r :: rs, s)

theorem run_append (s : Sockets) (os ps : List Operation) :
    s.run (os ++ ps) = ((s.run os).1 ++ ((s.run os).2.run ps).1, ((s.run os).2.run ps).2) := by
  induction os generalizing s with
  | nil => rfl
  | cons o os ih => simp [run, ih]

end Sockets

end Rendezvous.Exit
