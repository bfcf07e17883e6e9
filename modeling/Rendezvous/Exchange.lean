import Rendezvous.Post
import Rendezvous.Room.Delivery
import Rendezvous.Worker

/-!
The room behind the worker: what the room sends goes to the mailboxes of registered connections.
-/

namespace Rendezvous

structure Exchange where
  room : Room := .empty
  post : Post := .empty
  journal : Option (List Log.Entry) := none

namespace Exchange

def note (e : Log.Entry) (x : Exchange) : Exchange :=
  { x with journal := x.journal.map (e :: ·) }

def entries (x : Exchange) : List Log.Entry := (x.journal.getD []).reverse

def receiptLog : Receipt → List Log.Entry
  | .taken => [Log.trace "Text eingereiht"]
  | .full =>
    [Log.debug "Ausgangs-Queue voll, Auftrag verworfen",
      Log.warn "Senden fehlgeschlagen: Verbindung nicht verfuegbar"]
  | .gone => [Log.warn "Senden fehlgeschlagen: Verbindung nicht verfuegbar"]

def send (r : Registry) (v : ConnectionId) (text : String) (x : Exchange) : Bool × Exchange :=
  let (receipt, post) := x.post.send r v (.text text)
  (receipt.isTaken, (receiptLog receipt).foldl (fun x e => x.note e) { x with post := post })

def outlet (r : Registry) : Outlet Exchange where
  send := send r
  isOpen v x := (x.post.isConnected r v, x)
  count x := (r.count, x)
  note := note
  verbose x := x.journal.isSome

def act (ice : Ice) (r : Registry) (e : Event) (x : Exchange) : List Sent × Exchange :=
  let (room, sent, x) := x.room.act ice (outlet r) x e
  (sent, { x with room := room })

def handler (ice : Ice) : Handler Exchange where
  text r v s x := (x.act ice r (.text v s)).2
  closed r v x := (x.act ice r (.closed v)).2
  note := note

end Exchange

end Rendezvous
