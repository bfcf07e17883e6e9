import Rendezvous.Failure
import Rendezvous.IpAddress
import Rendezvous.Log.Options

namespace Rendezvous

/-- Times are in seconds. -/
structure Settings where
  address : IpAddress := .v4 0 0 0 0
  port : Nat := 8888
  tlsPort : Option Nat := none
  certificate : String := "cert.pem"
  key : String := "key.pem"
  dhParameters : Option String := some "dh.pem"
  pingInterval : Nat := 5
  pongTime : Nat := 15
  handshakeTime : Nat := 10
  closingTime : Nat := 1
  ice : Ice := .none
  logLevel : Log.Level := .info
  logFormat : Log.Format := .text
  channel : String := "funkstelle"
deriving DecidableEq, Repr

namespace Settings

def standard : Settings := {}

inductive Fault where
  | address (given : String)
  | ice (onCommandLine : Bool) (descriptor : String) (fault : Ice.Fault)
  | log (fault : Log.Fault)
  | channel (given : String)
  | zeroTime (field : String)
  | iceConflict
  | unreadable (path : String)
  | toml (path : Option String)
deriving DecidableEq, Repr

def Fault.messages : Fault → List String
  | .address given => ["Ungueltige bind_adresse '" ++ given ++ "'"]
  | .ice onCommandLine descriptor fault =>
    (if onCommandLine then ["Ungueltiger Wert fuer --ice"] else []) ++
      [(Failure.iceDescriptor descriptor fault.reason).message]
  | .log fault => [fault.message]
  | .channel given =>
    ["Ungueltiger Kanalname '" ++ given ++
      "': darf nicht leer sein und keine Pfadtrenner enthalten"]
  | .zeroTime field => ["keepalive." ++ field ++ " muss groesser als 0 sein"]
  | .iceConflict => ["[ice]: deskriptor und uri/username/password schliessen sich aus"]
  | .unreadable path => ["Konfigurationsdatei '" ++ path ++ "' nicht lesbar"]
  | .toml path => path.toList.map fun p => "Konfigurationsfehler in '" ++ p ++ "'"

def Fault.message (f : Fault) : String := ": ".intercalate f.messages

def tlsPortOf (n : Nat) : Option Nat := if n = 0 then none else some n

def readLevel (s : String) : Except Fault Log.Level :=
  match Log.readLevel s with
  | .ok l => .ok l
  | .error f => .error (.log f)

def readFormat (s : String) : Except Fault Log.Format :=
  match Log.readFormat s with
  | .ok l => .ok l
  | .error f => .error (.log f)

def readIce (onCommandLine : Bool) (s : String) : Except Fault Ice :=
  match Ice.ofDescriptor s with
  | .ok i => .ok i
  | .error f => .error (.ice onCommandLine s f)

def readAddress (s : String) : Except Fault IpAddress :=
  match IpAddress.read? s with
  | some a => .ok a
  | none => .error (.address s)

def isChannelName (s : String) : Bool := !s.isEmpty && s.toList.all fun c => c ≠ '/' && c ≠ '\\'

def readChannel (s : String) : Except Fault String :=
  if isChannelName s then .ok s else .error (.channel s)

def readSeconds (field : String) (n : Nat) : Except Fault Nat :=
  if n = 0 then .error (.zeroTime field) else .ok n

def replace {α β ε : Type} (read : α → Except ε β) (given : Option α) (old : β) : Except ε β :=
  match given with
  | none => .ok old
  | some a => read a

end Settings

end Rendezvous
