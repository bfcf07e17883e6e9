import Rendezvous.Listing
import Rendezvous.Room.Step

/-!
Sending what a step leaves. The way out is a set of questions to a state of any kind, and each
answer may change that state.
-/

namespace Rendezvous

structure Outlet (σ : Type) where
  send : ConnectionId → String → σ → Bool × σ
  isOpen : ConnectionId → σ → Bool × σ
  count : σ → Nat × σ
  note : Log.Entry → σ → σ
  verbose : σ → Bool

structure Sent where
  receiver : ConnectionId
  letter : Letter
  taken : Bool
deriving DecidableEq, Repr

namespace Outlet

variable {σ : Type} (o : Outlet σ)

def noteAll (entries : List Log.Entry) (s : σ) : σ := entries.foldl (fun s e => o.note e s) s

def post (receiver : ConnectionId) (letter : Letter) (s : σ) : Sent × σ :=
  let (taken, s) := o.send receiver letter.text s
  (⟨receiver, letter, taken⟩, s)

def postLetters : List (ConnectionId × Letter) → σ → List Sent × σ
  | [], s => ([], s)
  | (receiver, letter) :: rest, s =>
    let (first, s) := o.post receiver letter s
    let (others, s) := postLetters rest s
    (first :: others, s)

def postNotices : List Notice → σ → List Sent × σ
  | [], s => ([], s)
  | notice :: rest, s =>
    match o.isOpen notice.receiver s with
    | (true, s) =>
      let (first, s) := o.post notice.receiver notice.letter s
      let (others, s) := postNotices rest s
      (first :: others, s)
    | (false, s) => postNotices rest (o.note (Log.debug "Gegenseite nicht mehr verbunden") s)

def marks : List Peer → σ → List (Peer × Bool) × σ
  | [], s => ([], s)
  | p :: ps, s =>
    let (isOpen, s) := o.isOpen p.connection s
    let (others, s) := marks ps s
    ((p, isOpen) :: others, s)

def noteListing (peers : List Peer) (s : σ) : σ :=
  if o.verbose s then
    let (connections, s) := o.count s
    let (entries, s) := o.marks peers s
    o.note (Log.debug ("Peer-Liste:\n" ++ Listing.render connections entries)) s
  else s

def deliver (out : Outbox) (s : σ) : List Sent × σ :=
  let (letters, s) := o.postLetters out.letters s
  let (notices, s) := o.postNotices out.notices s
  (letters ++ notices, match out.listing with
    | none => s
    | some peers => o.noteListing peers s)

end Outlet

namespace Room

variable {σ : Type}

def act (ice : Ice) (o : Outlet σ) (room : Room) (s : σ) (e : Event) : Room × List Sent × σ :=
  let turn := room.step ice e
  let (sent, s) := o.deliver turn.outbox (o.noteAll turn.log s)
  (turn.room, sent, s)

def run (ice : Ice) (o : Outlet σ) : List Event → Room → σ → List (List Sent) × Room × σ
  | [], room, s => ([], room, s)
  | e :: es, room, s =>
    let (room, sent, s) := room.act ice o s e
    let (others, room, s) := run ice o es room s
    (sent :: others, room, s)

end Room

end Rendezvous
