import Rendezvous.Peer.Basic

namespace Rendezvous

structure Pairing where
  caller : PeerId
  callee : PeerId
deriving DecidableEq, Repr

namespace Pairing

def counterpart? (p : Pairing) (id : PeerId) : Option PeerId :=
  if p.caller = id then some p.callee
  else if p.callee = id then some p.caller
  else none

def mentions (p : Pairing) (id : PeerId) : Bool := p.caller == id || p.callee == id

end Pairing

structure PairTable where
  pairs : List Pairing := []

namespace PairTable

def empty : PairTable := {}

def size (t : PairTable) : Nat := t.pairs.length

def add (t : PairTable) (caller callee : PeerId) : PairTable :=
  if ⟨caller, callee⟩ ∈ t.pairs then t else ⟨t.pairs ++ [⟨caller, callee⟩]⟩

def distinct (ids : List PeerId) : List PeerId :=
  (ids.foldl (fun seen id => if id ∈ seen then seen else id :: seen) []).reverse

def counterparts (t : PairTable) (id : PeerId) : List PeerId :=
  distinct ((t.pairs.filterMap (·.counterpart? id)).filter (· ≠ id))

def without (t : PairTable) (id : PeerId) : PairTable := ⟨t.pairs.filter fun p => !p.mentions id⟩

end PairTable

end Rendezvous
