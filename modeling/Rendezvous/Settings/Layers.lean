import Rendezvous.CommandLine
import Rendezvous.Settings.Basic
import Rendezvous.Toml.Document

/-!
Where settings come from: standard values, then the command line, then a file. What a later layer
sets takes precedence.
-/

namespace Rendezvous.Settings

def applyArguments (s : Settings) (a : CommandLine.Arguments) : Except Fault Settings := do
  let logLevel ← replace readLevel a.logLevel s.logLevel
  let ice ← replace (readIce true) a.ice s.ice
  let channel ← replace readChannel a.channel s.channel
  return { s with
    port := a.port.getD s.port
    tlsPort := (a.tlsPort.map tlsPortOf).getD s.tlsPort
    logLevel := logLevel
    ice := ice
    channel := channel }

structure Document where
  address : Option String := none
  port : Option Nat := none
  tlsPort : Option Nat := none
  certificate : Option String := none
  key : Option String := none
  dhParameters : Option String := none
  iceDescriptor : Option String := none
  iceUri : Option String := none
  iceUsername : Option String := none
  icePassword : Option String := none
  pingInterval : Option Nat := none
  pongTime : Option Nat := none
  logLevel : Option String := none
  logFormat : Option String := none
  channel : Option String := none
deriving DecidableEq, Repr

namespace Document

def sections : List (String × List String) :=
  [("netzwerk", ["bind_adresse", "port", "tls_port"]),
    ("tls", ["zertifikat", "schluessel", "dh_parameter"]),
    ("ice", ["deskriptor", "uri", "username", "password"]),
    ("keepalive", ["ping_intervall_s", "pong_timeout_s"]),
    ("logging", ["level", "format"]),
    ("steuerung", ["kanal"])]

def isKnown (s : Toml.Section) : Bool :=
  match sections.lookup s.name, s.content with
  | none, _ => false
  | some keys, .keyed entries => entries.all fun e => keys.contains e.1
  | some _, .listed _ => true

def value? (d : Toml.Document) (name k : String) : Option Toml.Value :=
  match sections.lookup name, Toml.Document.section? d name with
  | some keys, some s => s.value? keys k
  | _, _ => none

def text? (d : Toml.Document) (name k : String) : Option (Option String) :=
  match value? d name k with
  | none => some none
  | some (.text s) => some (some s)
  | some _ => none

def natural? (limit : Nat) (d : Toml.Document) (name k : String) : Option (Option Nat) :=
  match value? d name k with
  | none => some none
  | some (.integer n) => if 0 ≤ n ∧ n.toNat ≤ limit then some (some n.toNat) else none
  | some _ => none

def greatestSeconds : Nat := 0x7FFFFFFFFFFFFFFF

def ofToml? (d : Toml.Document) : Option Document :=
  if d.all isKnown then do
    return {
      address := ← text? d "netzwerk" "bind_adresse"
      port := ← natural? CommandLine.greatestPort d "netzwerk" "port"
      tlsPort := ← natural? CommandLine.greatestPort d "netzwerk" "tls_port"
      certificate := ← text? d "tls" "zertifikat"
      key := ← text? d "tls" "schluessel"
      dhParameters := ← text? d "tls" "dh_parameter"
      iceDescriptor := ← text? d "ice" "deskriptor"
      iceUri := ← text? d "ice" "uri"
      iceUsername := ← text? d "ice" "username"
      icePassword := ← text? d "ice" "password"
      pingInterval := ← natural? greatestSeconds d "keepalive" "ping_intervall_s"
      pongTime := ← natural? greatestSeconds d "keepalive" "pong_timeout_s"
      logLevel := ← text? d "logging" "level"
      logFormat := ← text? d "logging" "format"
      channel := ← text? d "steuerung" "kanal" }
  else none

def read? (text : String) : Option Document := (Toml.Document.read? text).bind ofToml?

end Document

def dhParametersOf (path : String) : Option String := if path.isEmpty then none else some path

def applyIce (d : Document) (ice : Ice) : Except Fault Ice :=
  match d.iceDescriptor with
  | some descriptor =>
    if d.iceUri.isSome || d.iceUsername.isSome || d.icePassword.isSome then .error .iceConflict
    else readIce false descriptor
  | none =>
    .ok ⟨d.iceUri.getD ice.uri, d.iceUsername.getD ice.username, d.icePassword.getD ice.password⟩

def applyDocument (s : Settings) (d : Document) : Except Fault Settings := do
  let address ← replace readAddress d.address s.address
  let pingInterval ← replace (readSeconds "ping_intervall_s") d.pingInterval s.pingInterval
  let pongTime ← replace (readSeconds "pong_timeout_s") d.pongTime s.pongTime
  let ice ← applyIce d s.ice
  let logLevel ← replace readLevel d.logLevel s.logLevel
  let logFormat ← replace readFormat d.logFormat s.logFormat
  let channel ← replace readChannel d.channel s.channel
  return { s with
    address := address
    port := d.port.getD s.port
    tlsPort := (d.tlsPort.map tlsPortOf).getD s.tlsPort
    certificate := d.certificate.getD s.certificate
    key := d.key.getD s.key
    dhParameters := (d.dhParameters.map dhParametersOf).getD s.dhParameters
    pingInterval := pingInterval
    pongTime := pongTime
    ice := ice
    logLevel := logLevel
    logFormat := logFormat
    channel := channel }

def applyText (s : Settings) (path : Option String) (text : String) : Except Fault Settings :=
  match Document.read? text with
  | none => .error (.toml path)
  | some d => s.applyDocument d

def resolve (load : String → Option String) (a : CommandLine.Arguments) : Except Fault Settings :=
  match standard.applyArguments a with
  | .error f => .error f
  | .ok s =>
    match a.config with
    | none => .ok s
    | some path =>
      match load path with
      | none => .error (.unreadable path)
      | some text => s.applyText (some path) text

end Rendezvous.Settings
