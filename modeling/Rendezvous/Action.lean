import Rendezvous.Registry

namespace Rendezvous

inductive Payload where
  | text (s : String)
  | binary (bs : List UInt8)
deriving DecidableEq, Repr

def Payload.size : Payload → Nat
  | .text s => s.utf8ByteSize
  | .binary bs => bs.length

inductive Action where
  | subscribe (l : Listener) (h : Handle)
  | unsubscribe (v : ConnectionId)
  | message (v : ConnectionId) (payload : Payload)
  | exit
deriving DecidableEq, Repr

def Action.connection? : Action → Option ConnectionId
  | .subscribe _ h => some h.connection
  | .unsubscribe v => some v
  | .message v _ => some v
  | .exit => none

structure ActionQueue where
  actions : List Action := []

namespace ActionQueue

def empty : ActionQueue := {}

def size (q : ActionQueue) : Nat := q.actions.length

def isEmpty (q : ActionQueue) : Bool := q.actions.isEmpty

def enqueue (q : ActionQueue) (a : Action) : ActionQueue := ⟨q.actions ++ [a]⟩

def enqueueAll (q : ActionQueue) (as : List Action) : ActionQueue := ⟨q.actions ++ as⟩

def dequeue? (q : ActionQueue) : Option (Action × ActionQueue) :=
  match q.actions with
  | [] => none
  | a :: as => some (a, ⟨as⟩)

end ActionQueue

end Rendezvous
