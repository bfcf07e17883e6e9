import Rendezvous.Peer.Basic
import Std.Data.TreeMap

namespace Rendezvous

abbrev MailboxKey := Nat

structure Handle where
  connection : ConnectionId
  mailbox : MailboxKey
deriving DecidableEq, Repr

structure Registry where
  plain : Std.TreeMap ConnectionId MailboxKey := {}
  tls : Std.TreeMap ConnectionId MailboxKey := {}

namespace Registry

def empty : Registry := {}

def add (r : Registry) (l : Listener) (h : Handle) : Registry :=
  match l with
  | .plain => { r with plain := r.plain.insert h.connection h.mailbox }
  | .tls => { r with tls := r.tls.insert h.connection h.mailbox }

def remove (r : Registry) (v : ConnectionId) : Option Listener × Registry :=
  if r.plain.contains v then (some .plain, { r with plain := r.plain.erase v })
  else if r.tls.contains v then (some .tls, { r with tls := r.tls.erase v })
  else (none, r)

def find? (r : Registry) (v : ConnectionId) : Option MailboxKey := r.plain[v]?.or r.tls[v]?

def mailboxes (r : Registry) : List MailboxKey := r.plain.values ++ r.tls.values

def holds (r : Registry) (m : MailboxKey) : Bool := r.mailboxes.contains m

def countOf (r : Registry) : Listener → Nat
  | .plain => r.plain.size
  | .tls => r.tls.size

def count (r : Registry) : Nat := r.plain.size + r.tls.size

end Registry

end Rendezvous
