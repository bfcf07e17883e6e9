/-!
The mailbox of a connection: what is waiting to be written to its client, oldest first. A full
mailbox refuses orders, so a client that does not read cannot pile them up.
-/

namespace Rendezvous

inductive Order where
  | text (s : String)
  | binary (bs : List UInt8)
  | ping
deriving DecidableEq, Repr

inductive Receipt where
  | taken
  | full
  | gone
deriving DecidableEq, Repr

def Receipt.isTaken : Receipt → Bool
  | .taken => true
  | _ => false

structure Mailbox where
  orders : List Order := []
  abandoned : Bool := false
deriving DecidableEq, Repr

namespace Mailbox

def capacity : Nat := 256

def empty : Mailbox := {}

def put (m : Mailbox) (o : Order) : Receipt × Mailbox :=
  if m.abandoned then (.gone, m)
  else if m.orders.length < capacity then (.taken, { m with orders := m.orders ++ [o] })
  else (.full, m)

def take (m : Mailbox) : Option Order × Mailbox :=
  match m.orders with
  | [] => (none, m)
  | o :: os => (some o, { m with orders := os })

def abandon (_ : Mailbox) : Mailbox := { abandoned := true }

theorem put_eq_self {m : Mailbox} {o : Order} (h : (m.put o).1 ≠ .taken) : (m.put o).2 = m := by
  unfold put at *
  split
  · rfl
  · split <;> simp_all

theorem orders_put {m : Mailbox} {o : Order} (h : (m.put o).1 = .taken) :
    (m.put o).2.orders = m.orders ++ [o] := by
  unfold put at *
  split at h
  · simp at h
  · split at h <;> simp_all

end Mailbox

end Rendezvous
