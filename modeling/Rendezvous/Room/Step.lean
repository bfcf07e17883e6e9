import Rendezvous.Request
import Rendezvous.Room.Basic

/-!
What each event does to the room. Nothing here depends on whether anything that is sent arrives.
-/

namespace Rendezvous.Room

def partners (room : Room) (id : PeerId) : List PeerId := room.pairs.counterparts id

def notices (room : Room) (id : PeerId) : List Notice :=
  (room.partners id).filterMap fun c => (room.peers.connectionOf? c).map (⟨·, id⟩)

def absentPartners (room : Room) (id : PeerId) : List PeerId :=
  (room.partners id).filter fun c => (room.peers.connectionOf? c).isNone

def partingLog (room : Room) (id : PeerId) : List Log.Entry :=
  (room.absentPartners id).map fun _ => Log.debug "Gegenseite nicht mehr angemeldet"

def part (room : Room) (id : PeerId) : Room := { room with pairs := room.pairs.without id }

def leave (room : Room) (v : ConnectionId) : Option Peer × Room :=
  let (peer, peers) := room.peers.signOut v
  (peer, { room with peers := peers })

def replace (room : Room) (v : ConnectionId) : Turn :=
  match room.leave v with
  | (none, room) => { room := room }
  | (some old, room) =>
    { room := room.part old.id
      outbox := { notices := room.notices old.id }
      log := Log.info "Erneutes sign_in ersetzt bisherigen Peer" :: room.partingLog old.id }

def signIn (ice : Ice) (room : Room) (v : ConnectionId) (name : String) (unlisted : Bool) : Turn :=
  let before := room.replace v
  let again := before.room.peers.hasName name
  let (peer, peers) := before.room.peers.signIn name v
  let roster := if unlisted then none else some peers.roster
  { room := { before.room with peers := peers }
    outbox :=
      { letters := [(v, .reply (.signedIn peer.id peer.name again ice roster))]
        notices := before.outbox.notices
        listing := some peers.peers }
    log := before.log ++ [Log.info "Peer angemeldet"] }

/-- Signs out the connection's own peer. The pairings that end are those of the number that the
request gives, or else of that peer. -/
def signOut (room : Room) (v : ConnectionId) (id : Option PeerId) : Turn :=
  let (own, room) := room.leave v
  let letters := [(v, Letter.reply .signedOut)]
  let listing := own.map fun _ => room.peers.peers
  let log := own.toList.map fun _ => Log.info "Peer abgemeldet"
  match id.or (own.map Peer.id) with
  | some id =>
    { room := room.part id
      outbox := ⟨letters, room.notices id, listing⟩
      log := log ++ room.partingLog id }
  | none =>
    { room := room
      outbox := ⟨letters, [], listing⟩
      log := log ++ [Log.debug "sign_out ohne Peer und ohne id"] }

def caller? (room : Room) (v : ConnectionId) (sender : Option PeerId) : Option PeerId :=
  sender.or ((room.peers.peerAt? v).map Peer.id)

def message (room : Room) (v : ConnectionId) (text : String) (recipient : PeerId)
    (sender : Option PeerId) (kind : Option String) : Turn :=
  match room.peers.connectionOf? recipient with
  | none => { room := room, log := [Log.debug "Ziel nicht angemeldet, Nachricht verworfen"] }
  | some target =>
    let outbox : Outbox := { letters := [(target, .relay text)] }
    if Request.isOffer kind then
      match room.caller? v sender with
      | some caller =>
        { room := { room with pairs := room.pairs.add caller recipient }
          outbox := outbox
          log := [Log.debug "Paarung eingetragen"] }
      | none =>
        { room := room, outbox := outbox
          log := [Log.debug "Angebot ohne Absender, keine Paarung"] }
    else { room := room, outbox := outbox }

def exist (room : Room) (v : ConnectionId) (name : String) : Turn :=
  { room := room, outbox := { letters := [(v, .reply (.found (room.peers.find? name)))] } }

def answer (ice : Ice) (room : Room) (v : ConnectionId) (text : String) : Request → Turn
  | .signIn name unlisted => room.signIn ice v name unlisted
  | .signOut id => room.signOut v id
  | .message recipient sender kind => room.message v text recipient sender kind
  | .exist name => room.exist v name

def receive (ice : Ice) (room : Room) (v : ConnectionId) (text : String) : Turn :=
  match Request.parse text with
  | .error _ => { room := room, log := [Log.debug "Dokument verworfen"] }
  | .ok request =>
    let turn := room.answer ice v text request
    { turn with log := Log.trace "Anfrage" :: turn.log }

def close (room : Room) (v : ConnectionId) : Turn :=
  match room.leave v with
  | (none, room) => { room := room, log := [Log.debug "Verbindung ohne Peer geschlossen"] }
  | (some peer, room) =>
    { room := room.part peer.id
      outbox := { notices := room.notices peer.id, listing := some room.peers.peers }
      log := Log.info "Peer getrennt" :: room.partingLog peer.id }

def step (ice : Ice) (room : Room) : Event → Turn
  | .text v text => room.receive ice v text
  | .closed v => room.close v

end Rendezvous.Room
