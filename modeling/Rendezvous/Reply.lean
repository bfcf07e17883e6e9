import Rendezvous.Ice
import Rendezvous.Json.Writer
import Rendezvous.Peer.Basic

namespace Rendezvous

inductive Reply where
  | signedIn (id : PeerId) (name : String) (again : Bool) (ice : Ice)
      (peers : Option (List (PeerId × String)))
  | signedOut
  | departed (id : PeerId)
  | found (id : Option PeerId)
deriving DecidableEq, Repr

namespace Reply

open Json (Value Tree)

def number (id : PeerId) : Value := .number (.integer id)

def answers (request : String) : List (String × Value) :=
  [("signal", .text "return"), ("request", .text request)]

def iceValue (ice : Ice) : Value :=
  .object [("uri", .text ice.uri), ("username", .text ice.username),
    ("password", .text ice.password)]

def peerValue (p : PeerId × String) : Value := .object [("id", number p.1), ("name", .text p.2)]

def value : Reply → Value
  | .signedIn id name again ice peers =>
    .object (answers "sign_in" ++
      [("status", .text "ok"), ("repeat", .boolean again), ("id", number id),
        ("name", .text name)] ++
      (if ice.isEmpty then [] else [("ice", iceValue ice)]) ++
      (match peers with
        | none => []
        | some ps => [("peers", .array (ps.map peerValue))]))
  | .signedOut => .object (answers "sign_out" ++ [("status", .text "ok")])
  | .departed id => .object [("signal", .text "sign_out"), ("id", number id)]
  | .found id =>
    .object (answers "exist" ++ [("exist", .boolean id.isSome)] ++
      (match id with
        | none => []
        | some id => [("id", number id)]))

def text (r : Reply) : String := Json.render r.value

end Reply

end Rendezvous
