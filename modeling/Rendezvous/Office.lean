import Rendezvous.Post

/-!
The registry and the mailboxes behind it, for those who call on it: handles are made and added,
orders are sent, and receivers empty their mailboxes or give them up.
-/

namespace Rendezvous

structure Office where
  registry : Registry := .empty
  post : Post := .empty
  held : List Handle := []

namespace Office

def empty : Office := {}

inductive Operation where
  | create (v : ConnectionId)
  | add (l : Listener) (h : Handle)
  | remove (v : ConnectionId)
  | send (v : ConnectionId) (o : Order)
  | broadcast (o : Order)
  | pingAll
  | receive (k : MailboxKey)
  | abandon (k : MailboxKey)
deriving DecidableEq, Repr

inductive Reception where
  | order (o : Order)
  | waiting
  | closed
deriving DecidableEq, Repr

inductive Answer where
  | done
  | created (h : Handle)
  | removed (l : Option Listener)
  | posted (receipts : List Receipt)
  | received (r : Reception)
deriving DecidableEq, Repr

def holds (s : Office) (k : MailboxKey) : Bool :=
  s.registry.holds k || s.held.any fun h => h.mailbox == k

def perform (s : Office) : Operation → Answer × Office
  | .create v =>
    let (k, post) := s.post.create
    (.created ⟨v, k⟩, { s with post := post, held := ⟨v, k⟩ :: s.held })
  | .add l h =>
    if h ∈ s.held then
      (.done, { s with registry := s.registry.add l h, held := s.held.filter (· ≠ h) })
    else (.done, s)
  | .remove v =>
    let (l, registry) := s.registry.remove v
    (.removed l, { s with registry := registry })
  | .send v o =>
    let (receipt, post) := s.post.send s.registry v o
    (.posted [receipt], { s with post := post })
  | .broadcast o =>
    let (receipts, post) := s.post.broadcast s.registry o
    (.posted receipts, { s with post := post })
  | .pingAll =>
    let (receipts, post) := s.post.pingAll s.registry
    (.posted receipts, { s with post := post })
  | .receive k =>
    let (order, post) := s.post.take k
    let reception := match order with
      | some o => .order o
      | none => if s.holds k then .waiting else .closed
    (.received reception, { s with post := post })
  | .abandon k => (.done, { s with post := s.post.abandon k })

end Office

end Rendezvous
