import Rendezvous.Action
import Rendezvous.Log.Entry

/-!
The worker takes actions one by one, keeps the registry, and calls a handler. The handler sees the
registry but cannot change it.
-/

namespace Rendezvous

structure Handler (σ : Type) where
  text : Registry → ConnectionId → String → σ → σ
  closed : Registry → ConnectionId → σ → σ
  note : Log.Entry → σ → σ

structure Statistics where
  opened : Nat := 0
  closed : Nat := 0
  messages : Nat := 0
  ignored : Nat := 0
deriving DecidableEq, Repr

structure Worker (σ : Type) where
  registry : Registry := .empty
  statistics : Statistics := {}
  state : σ

namespace Worker

variable {σ : Type} (h : Handler σ)

def note (w : Worker σ) (e : Log.Entry) : Worker σ := { w with state := h.note e w.state }

def subscribe (w : Worker σ) (l : Listener) (handle : Handle) : Worker σ :=
  let w := { w with registry := w.registry.add l handle }
  let w := w.note h (Log.debug "Verbindung registriert")
  { w with statistics := { w.statistics with opened := w.statistics.opened + 1 } }

def unsubscribe (w : Worker σ) (v : ConnectionId) : Worker σ :=
  match w.registry.remove v with
  | (none, _) => w.note h (Log.debug "Unsubscribe fuer unbekannte Verbindung")
  | (some _, registry) =>
    let w := { w with
      registry := registry
      statistics := { w.statistics with closed := w.statistics.closed + 1 } }
    let w := w.note h (Log.debug "Verbindung abgemeldet")
    { w with state := h.closed w.registry v w.state }

def message (w : Worker σ) (v : ConnectionId) : Payload → Worker σ
  | .text s => { w with
      statistics := { w.statistics with messages := w.statistics.messages + 1 }
      state := h.text w.registry v s w.state }
  | .binary _ =>
    let w := { w with statistics := { w.statistics with ignored := w.statistics.ignored + 1 } }
    w.note h (Log.debug "Binaerframe ignoriert")

def process (w : Worker σ) : Action → Worker σ
  | .subscribe l handle => w.subscribe h l handle
  | .unsubscribe v => w.unsubscribe h v
  | .message v payload => w.message h v payload
  | .exit => w

def step (w : Worker σ) (a : Action) : Worker σ :=
  (w.note h (Log.trace "Action entnommen")).process h a

def drain : List Action → Worker σ → Bool × List Action × Worker σ
  | [], w => (false, [], w)
  | .exit :: rest, w => (true, rest, w.step h .exit)
  | a :: rest, w => drain rest (w.step h a)

def finish (rest : List Action) (w : Worker σ) : Worker σ :=
  let w := if rest.isEmpty then w else w.note h (Log.debug "Actions nach Exit verworfen")
  w.note h (Log.debug "Worker beendet")

def start (w : Worker σ) : Worker σ := w.note h (Log.debug "Worker gestartet")

/-- A whole run on a queue that holds an exit; without one, the worker is left waiting. -/
def run (q : ActionQueue) (w : Worker σ) : ActionQueue × Worker σ :=
  match drain h q.actions (w.start h) with
  | (true, rest, w) => (⟨rest⟩, w.finish h rest)
  | (false, rest, w) => (⟨rest⟩, w)

end Worker

end Rendezvous
