import Rendezvous.Peer.Basic

namespace Rendezvous.Listing

def mark (isOpen : Bool) : String := if isOpen then "+" else "-"

def line (p : Peer) (isOpen : Bool) : String :=
  "\n  " ++ mark isOpen ++ " " ++ p.id.text ++ " " ++ p.name ++ " [" ++ p.connection.text ++ "]"

def heading (peers connections : Nat) : String :=
  toString peers ++ " Peers, " ++ toString connections ++ " Verbindungen" ++
    (if peers = connections then "" else " (abweichend)")

def render (connections : Nat) (entries : List (Peer × Bool)) : String :=
  heading entries.length connections ++ String.join (entries.map fun e => line e.1 e.2)

end Rendezvous.Listing
