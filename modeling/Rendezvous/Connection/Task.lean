import Rendezvous.Action
import Rendezvous.Clock
import Rendezvous.Mailbox
import Rendezvous.WebSocket.Message

/-!
The life of a connection: handshake, then frames in and orders out, then the end.
-/

namespace Rendezvous.Connection

/-- In milliseconds. -/
abbrev Time := Nat

def closingTime : Time := 1000

def shutdownReason : WebSocket.CloseReason := ⟨1001, "server shutdown"⟩
def pongReason : WebSocket.CloseReason := ⟨1000, "pong timeout"⟩

inductive Phase where
  | handshake (deadline : Time)
  | idle
  | writing (deadline : Time)
  | parting (deadline : Time)
  | finishing (deadline : Time)
  | ended
deriving DecidableEq, Repr

structure Task where
  listener : Listener
  handle : Handle
  pongTime : Time
  /-- When the first ping was taken that no pong has followed. -/
  pingSince : Option Time := none
  phase : Phase
deriving DecidableEq, Repr

inductive Incident where
  | upgraded
  | turnedAway
  | shutdown
  | order (o : Order)
  | released
  | message (m : WebSocket.Message)
  | broken
  | written
  | writeFailed
  | tick
deriving DecidableEq, Repr

inductive Effect where
  | enqueue (a : Action)
  | write (m : WebSocket.Message) (deadline : Time)
  | finish (deadline : Time)
deriving DecidableEq, Repr

namespace Task

def start (l : Listener) (h : Handle) (pongTime handshakeTime now : Time) (shutdown : Bool) :
    Task :=
  { listener := l, handle := h, pongTime := pongTime
    phase := if shutdown then .ended else .handshake (now + handshakeTime) }

def pongDeadline? (t : Task) : Option Time := t.pingSince.map (· + t.pongTime)

def writeDeadline (t : Task) (now : Time) : Time := t.pingSince.getD now + t.pongTime

def orderMessage : Order → WebSocket.Message
  | .text s => .text s
  | .binary bs => .binary bs
  | .ping => .ping []

def notePing (t : Task) (now : Time) : Order → Task
  | .ping => { t with pingSince := some (t.pingSince.getD now) }
  | _ => t

def write (t : Task) (now : Time) (o : Order) : Task × List Effect :=
  let t := t.notePing now o
  let deadline := t.writeDeadline now
  ({ t with phase := .writing deadline }, [.write (orderMessage o) deadline])

def finish (t : Task) (now : Time) : Task × List Effect :=
  let deadline := now + closingTime
  ({ t with phase := .finishing deadline }, [.finish deadline])

def part (t : Task) (now : Time) (reason : WebSocket.CloseReason) : Task × List Effect :=
  let deadline := now + closingTime
  ({ t with phase := .parting deadline }, [.write (.close (some reason)) deadline])

def subscribe (t : Task) : Task × List Effect :=
  ({ t with phase := .idle }, [.enqueue (.subscribe t.listener t.handle)])

def unsubscribe (t : Task) : Task × List Effect :=
  ({ t with phase := .ended }, [.enqueue (.unsubscribe t.handle.connection)])

def report (t : Task) (p : Payload) : Task × List Effect :=
  (t, [.enqueue (.message t.handle.connection p)])

def hear (t : Task) (now : Time) : WebSocket.Message → Task × List Effect
  | .text s => t.report (.text s)
  | .binary bs => t.report (.binary bs)
  | .pong _ => ({ t with pingSince := none }, [])
  | .ping _ => (t, [])
  | .close _ => t.finish now

def pongIsOverdue (t : Task) (now : Time) : Bool :=
  match t.pongDeadline? with
  | some deadline => deadline ≤ now
  | none => false

def stepIdle (t : Task) (now : Time) : Incident → Task × List Effect
  | .shutdown => t.part now shutdownReason
  | .order o => t.write now o
  | .released => t.finish now
  | .message m => t.hear now m
  | .broken => t.finish now
  | .tick => if t.pongIsOverdue now then t.part now pongReason else (t, [])
  | _ => (t, [])

def step (t : Task) (now : Time) (i : Incident) : Task × List Effect :=
  match t.phase, i with
  | .handshake _, .upgraded => t.subscribe
  | .handshake _, .turnedAway => ({ t with phase := .ended }, [])
  | .handshake deadline, .tick => (if deadline ≤ now then { t with phase := .ended } else t, [])
  | .idle, i => t.stepIdle now i
  | .writing _, .written => ({ t with phase := .idle }, [])
  | .writing _, .writeFailed => t.finish now
  | .writing deadline, .tick => if deadline ≤ now then t.part now pongReason else (t, [])
  | .parting _, .written => t.finish now
  | .parting _, .writeFailed => t.finish now
  | .parting deadline, .tick => if deadline ≤ now then t.finish now else (t, [])
  | .finishing _, .written => t.unsubscribe
  | .finishing _, .writeFailed => t.unsubscribe
  | .finishing deadline, .tick => if deadline ≤ now then t.unsubscribe else (t, [])
  | _, _ => (t, [])

def run (t : Task) : List (Time × Incident) → Task × List Effect
  | [] => (t, [])
  | (now, i) :: rest =>
    let (t, first) := t.step now i
    let (t, others) := t.run rest
    (t, first ++ others)

def hasEnded (t : Task) : Bool := t.phase = .ended

end Task

def Effect.deadline? : Effect → Option Time
  | .enqueue _ => none
  | .write _ d => some d
  | .finish d => some d

namespace Task

def deadlines (t : Task) : List (Time × Incident) → List Time
  | [] => t.pongDeadline?.toList
  | (now, i) :: rest =>
    t.pongDeadline?.toList ++ (t.step now i).2.filterMap Effect.deadline? ++
      (t.step now i).1.deadlines rest

/-- The clock has a last second, and a deadline behind it cannot be waited for. -/
def IsShown (t : Task) (is : List (Time × Incident)) : Prop :=
  ∀ d ∈ t.deadlines is, d / 1000 ≤ Clock.last

end Task

end Rendezvous.Connection
