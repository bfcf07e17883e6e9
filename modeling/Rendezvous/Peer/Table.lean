import Rendezvous.Peer.Basic
import Std.Data.TreeMap

/-!
The peers that are signed in, found by number and by connection.
-/

namespace Rendezvous

structure PeerTable where
  byId : Std.TreeMap PeerId Peer := {}
  byConnection : Std.TreeMap ConnectionId PeerId := {}
  lastId : Option PeerId := none

namespace PeerTable

def empty : PeerTable := {}

def size (t : PeerTable) : Nat := t.byId.size

def peers (t : PeerTable) : List Peer := t.byId.values

def roster (t : PeerTable) : List (PeerId × String) := t.peers.map fun p => (p.id, p.name)

def peerAt? (t : PeerTable) (v : ConnectionId) : Option Peer :=
  t.byConnection[v]?.bind fun id => t.byId[id]?

def connectionOf? (t : PeerTable) (id : PeerId) : Option ConnectionId :=
  t.byId[id]?.map Peer.connection

def find? (t : PeerTable) (name : String) : Option PeerId :=
  (t.peers.find? fun p => p.name == name).map Peer.id

def hasName (t : PeerTable) (name : String) : Bool := t.peers.any fun p => p.name == name

def firstFree (t : PeerTable) : Nat → PeerId → PeerId
  | 0, candidate => candidate
  | tries + 1, candidate =>
    if t.byId.contains candidate then t.firstFree tries candidate.next else candidate

/-- The number for a new peer. There are as many tries as peers, so one of them is free. -/
def freshId (t : PeerTable) : PeerId :=
  t.firstFree t.size (match t.lastId with
    | none => 0
    | some id => id.next)

def takeId (t : PeerTable) : PeerId × PeerTable := (t.freshId, { t with lastId := some t.freshId })

def signIn (t : PeerTable) (name : String) (v : ConnectionId) : Peer × PeerTable :=
  let (id, t) := t.takeId
  let peer : Peer := ⟨id, name, v⟩
  (peer, { t with byId := t.byId.insert id peer, byConnection := t.byConnection.insert v id })

def signOut (t : PeerTable) (v : ConnectionId) : Option Peer × PeerTable :=
  match t.byConnection[v]? with
  | none => (none, t)
  | some id =>
    (t.byId[id]?, { t with byId := t.byId.erase id, byConnection := t.byConnection.erase v })

end PeerTable

end Rendezvous
