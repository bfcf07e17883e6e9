import Rendezvous.Text.Blank
import Rendezvous.Text.Split

/-!
The address and credentials of an ICE server, and their one-line form
`uri [username:password]`.
-/

namespace Rendezvous

structure Ice where
  uri : String := ""
  username : String := ""
  password : String := ""
deriving DecidableEq, Repr

namespace Ice

def none : Ice := {}

def isEmpty (ice : Ice) : Bool := ice.uri.isEmpty

def schemes : List String := ["turn:", "turns:", "stun:", "stuns:"]

def hasScheme (uri : List Char) : Bool := schemes.any fun s => s.toList.isPrefixOf uri

inductive Fault where
  | scheme | credentials | surplus
deriving DecidableEq, Repr

def Fault.reason : Fault → String
  | .scheme => "URI muss mit turn:, turns:, stun: oder stuns: beginnen"
  | .credentials => "Zugangsdaten muessen die Form <username>:<password> haben"
  | .surplus => "Zu viele Bestandteile"

def describe (descriptor reason : String) : String :=
  "Ungueltiger ICE-Deskriptor '" ++ descriptor ++ "': " ++ reason

def ofWords : List (List Char) → Except Fault Ice
  | [] => .ok none
  | uri :: rest =>
    if hasScheme uri then
      match rest with
      | [] => .ok { uri := String.ofList uri }
      | login :: more =>
        match Text.splitFirst? ':' login with
        | Option.none => .error .credentials
        | some (user, pass) =>
          if more.isEmpty then .ok ⟨String.ofList uri, String.ofList user, String.ofList pass⟩
          else .error .surplus
    else .error .scheme

def ofDescriptor (descriptor : String) : Except Fault Ice := ofWords (Text.words descriptor.toList)

def descriptor (ice : Ice) : String := ice.uri ++ " " ++ ice.username ++ ":" ++ ice.password

end Ice

end Rendezvous
