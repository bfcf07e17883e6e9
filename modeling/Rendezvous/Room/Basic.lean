import Rendezvous.Pairing
import Rendezvous.Peer.Table
import Rendezvous.Reply
import Rendezvous.Log.Entry

/-!
The room in which peers meet: who is there, and who has sent an offer to whom.
-/

namespace Rendezvous

structure Room where
  peers : PeerTable := .empty
  pairs : PairTable := .empty

def Room.empty : Room := {}

inductive Event where
  | text (v : ConnectionId) (text : String)
  | closed (v : ConnectionId)

def Event.connection : Event → ConnectionId
  | .text v _ => v
  | .closed v => v

inductive Letter where
  | reply (r : Reply)
  | relay (text : String)
deriving DecidableEq, Repr

def Letter.text : Letter → String
  | .reply r => r.text
  | .relay s => s

structure Notice where
  receiver : ConnectionId
  departed : PeerId
deriving DecidableEq, Repr

def Notice.letter (n : Notice) : Letter := .reply (.departed n.departed)

/-- What an event leaves to be sent: letters always, notices only to open connections, and a list
of peers for the log. -/
structure Outbox where
  letters : List (ConnectionId × Letter) := []
  notices : List Notice := []
  listing : Option (List Peer) := none

def Outbox.empty : Outbox := {}

structure Turn where
  room : Room
  outbox : Outbox := .empty
  log : List Log.Entry := []

end Rendezvous
