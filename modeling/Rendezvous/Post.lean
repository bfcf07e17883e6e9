import Rendezvous.Mailbox
import Rendezvous.Registry

namespace Rendezvous

structure Post where
  boxes : Std.TreeMap MailboxKey Mailbox := {}
  fresh : MailboxKey := 0

namespace Post

def empty : Post := {}

def create (p : Post) : MailboxKey × Post :=
  (p.fresh, ⟨p.boxes.insert p.fresh .empty, p.fresh + 1⟩)

def box? (p : Post) (k : MailboxKey) : Option Mailbox := p.boxes[k]?

def put (p : Post) (k : MailboxKey) (o : Order) : Receipt × Post :=
  match p.box? k with
  | none => (.gone, p)
  | some m =>
    let (receipt, m) := m.put o
    (receipt, { p with boxes := p.boxes.insert k m })

def take (p : Post) (k : MailboxKey) : Option Order × Post :=
  match p.box? k with
  | none => (none, p)
  | some m =>
    let (order, m) := m.take
    (order, { p with boxes := p.boxes.insert k m })

def abandon (p : Post) (k : MailboxKey) : Post :=
  { p with boxes := p.boxes.modify k Mailbox.abandon }

def isOpen (p : Post) (k : MailboxKey) : Bool :=
  match p.box? k with
  | none => false
  | some m => !m.abandoned

def putAll (p : Post) (o : Order) : List MailboxKey → List Receipt × Post
  | [] => ([], p)
  | k :: ks =>
    let (first, p) := p.put k o
    let (others, p) := putAll p o ks
    (first :: others, p)

def send (p : Post) (r : Registry) (v : ConnectionId) (o : Order) : Receipt × Post :=
  match r.find? v with
  | none => (.gone, p)
  | some k => p.put k o

def broadcast (p : Post) (r : Registry) (o : Order) : List Receipt × Post := p.putAll o r.mailboxes

def pingAll (p : Post) (r : Registry) : List Receipt × Post := p.broadcast r .ping

def isConnected (p : Post) (r : Registry) (v : ConnectionId) : Bool :=
  match r.find? v with
  | none => false
  | some k => p.isOpen k

def taken (receipts : List Receipt) : Nat := receipts.countP Receipt.isTaken

end Post

end Rendezvous
