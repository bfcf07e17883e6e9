namespace Rendezvous

abbrev PeerId := Int

abbrev ConnectionId := Nat

namespace PeerId

def greatest : PeerId := 0x7FFFFFFF

def next (p : PeerId) : PeerId := if -1 ≤ p ∧ p < greatest then p + 1 else 0

def isValid (p : PeerId) : Bool := 0 ≤ p && p ≤ greatest

def text (p : PeerId) : String := toString p

theorem next_valid (p : PeerId) : 0 ≤ next p ∧ next p ≤ greatest := by
  simp only [next, greatest, PeerId]
  omega

end PeerId

def ConnectionId.text (v : ConnectionId) : String := "conn:" ++ toString v

inductive Listener where
  | plain | tls
deriving DecidableEq, Repr

def Listener.scheme : Listener → String
  | .plain => "ws"
  | .tls => "wss"

structure Peer where
  id : PeerId
  name : String
  connection : ConnectionId
deriving DecidableEq, Repr

end Rendezvous
