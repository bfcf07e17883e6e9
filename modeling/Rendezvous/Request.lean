import Rendezvous.Json.Reader
import Rendezvous.Json.Writer
import Rendezvous.Peer.Basic

namespace Rendezvous

inductive Request where
  | signIn (name : String) (unlisted : Bool)
  | signOut (id : Option PeerId)
  | message (recipient : PeerId) (sender : Option PeerId) (kind : Option String)
  | exist (name : String)
deriving DecidableEq, Repr

namespace Request

inductive Fault where
  | json
  | signalMissing
  | unknownSignal (signal : String)
  | fieldMissing (field : String)
  | invalidId (field : String) (value : Json.Value)
deriving DecidableEq, Repr

def Fault.message : Fault → String
  | .json => "Ungueltiges JSON"
  | .signalMissing => "Feld 'signal' fehlt"
  | .unknownSignal s => "Unbekanntes Signal: " ++ s
  | .fieldMissing f => "Feld '" ++ f ++ "' fehlt"
  | .invalidId f v => "Ungueltige ID in Feld '" ++ f ++ "': " ++ Json.render v

inductive Signal where
  | signIn | signOut | message | exist
deriving DecidableEq, Repr

def Signal.name : Signal → String
  | .signIn => "sign_in"
  | .signOut => "sign_out"
  | .message => "message"
  | .exist => "exist"

def Signal.ofName? : String → Option Signal
  | "sign_in" => some .signIn
  | "sign_out" => some .signOut
  | "message" => some .message
  | "exist" => some .exist
  | _ => none

theorem Signal.ofName?_name (s : Signal) : ofName? s.name = some s := by cases s <;> rfl

def signal : Request → Signal
  | .signIn .. => .signIn
  | .signOut .. => .signOut
  | .message .. => .message
  | .exist .. => .exist

def offerKind : String := "offer"

def isOffer (kind : Option String) : Bool := kind == some offerKind

def textField (v : Json.Value) (field : String) : String :=
  match v.member? field with
  | some (.text s) => s
  | some (.number n) => n.text
  | _ => ""

def idField (v : Json.Value) (field : String) : Except Fault (Option PeerId) :=
  match v.member? field with
  | none => .ok none
  | some .null => .ok none
  | some (.number (.integer n)) =>
    if PeerId.isValid n then .ok (some n) else .error (.invalidId field (.number (.integer n)))
  | some x => .error (.invalidId field x)

def lenientIdField (v : Json.Value) (field : String) : Option PeerId :=
  match idField v field with
  | .ok id => id
  | .error _ => none

def readSignal (v : Json.Value) : Except Fault Signal :=
  match (v.member? "signal").bind Json.Tree.text? with
  | none => .error .signalMissing
  | some s =>
    match Signal.ofName? s with
    | none => .error (.unknownSignal s)
    | some signal => .ok signal

def ofSignal (v : Json.Value) : Signal → Except Fault Request
  | .signIn => .ok (.signIn (textField v "name") (v.member? "nolist").isSome)
  | .signOut => (idField v "id").map .signOut
  | .message =>
    match idField v "to" with
    | .error e => .error e
    | .ok none => .error (.fieldMissing "to")
    | .ok (some recipient) =>
      .ok (.message recipient (lenientIdField v "from") ((v.member? "type").bind Json.Tree.text?))
  | .exist => .ok (.exist (textField v "name"))

def ofValue (v : Json.Value) : Except Fault Request :=
  match readSignal v with
  | .error e => .error e
  | .ok s => ofSignal v s

def parse (text : String) : Except Fault Request :=
  match Json.parse? text with
  | none => .error .json
  | some v => ofValue v

end Request

def PeerId.ofJson? (text : String) : Option PeerId :=
  match Json.parse? text with
  | some (.number (.integer n)) => if -0x80000000 ≤ n ∧ n ≤ 0x7FFFFFFF then some n else none
  | _ => none

end Rendezvous
