import Rendezvous.Text.Digit
import Rendezvous.Text.Split

/-!
Options, then at most one command with options of its own. Arguments are judged from left to right,
a value that is an argument of its own only when the next option or the end follows it.
-/

namespace Rendezvous.CommandLine

inductive Flag where
  | port | tlsPort | logLevel | ice | config | channel
deriving DecidableEq, Repr

def Flag.all : List Flag := [.port, .tlsPort, .logLevel, .ice, .config, .channel]

def Flag.name : Flag → String
  | .port => "port"
  | .tlsPort => "tls-port"
  | .logLevel => "log-level"
  | .ice => "ice"
  | .config => "config"
  | .channel => "kanal"

structure Arguments where
  port : Option Nat := none
  tlsPort : Option Nat := none
  logLevel : Option String := none
  ice : Option String := none
  config : Option String := none
  channel : Option String := none
deriving DecidableEq, Repr

inductive Command where
  | run (a : Arguments)
  | stop (channel : Option String)
deriving DecidableEq, Repr

inductive Topic where
  | program | run | stop | help
deriving DecidableEq, Repr

def Topic.ofCommand? : String → Option Topic
  | "run" => some .run
  | "stop" => some .stop
  | "help" => some .help
  | _ => none

inductive Refusal where
  | invalidSubcommand
  | unknownArgument
  | valueValidation
  | invalidValue
  | argumentConflict
  | tooManyValues
  | help (t : Topic)
  | version
deriving DecidableEq, Repr

def greatestPort : Nat := 65535

def readPort (s : String) : Except Refusal Nat :=
  let value := match s.toList with
    | '+' :: ds => Text.number? 10 ds
    | '-' :: ds => (Text.number? 10 ds).filter (· = 0)
    | ds => Text.number? 10 ds
  match value with
  | some n => if n ≤ greatestPort then .ok n else .error .valueValidation
  | none => .error .valueValidation

namespace Arguments

def has (a : Arguments) : Flag → Bool
  | .port => a.port.isSome
  | .tlsPort => a.tlsPort.isSome
  | .logLevel => a.logLevel.isSome
  | .ice => a.ice.isSome
  | .config => a.config.isSome
  | .channel => a.channel.isSome

def set (a : Arguments) (value : String) : Flag → Except Refusal Arguments
  | .port => (readPort value).map fun n => { a with port := some n }
  | .tlsPort => (readPort value).map fun n => { a with tlsPort := some n }
  | .logLevel => .ok { a with logLevel := some value }
  | .ice => .ok { a with ice := some value }
  | .config => if value.isEmpty then .error .invalidValue else .ok { a with config := some value }
  | .channel => .ok { a with channel := some value }

def keep (a : Arguments) (f : Flag) : Option String → Except Refusal Arguments
  | none => .error .invalidValue
  | some value => if a.has f then .error .argumentConflict else a.set value f

end Arguments

inductive Place where
  | top | run | stop
deriving DecidableEq, Repr

def Place.flags : Place → List Flag
  | .top => Flag.all
  | .run => Flag.all
  | .stop => [.channel]

def Place.topic : Place → Topic
  | .top => .program
  | .run => .run
  | .stop => .stop

def Place.flag? (p : Place) (name : String) : Option Flag := p.flags.find? fun f => f.name == name

/-- What has been read. `pending` is the latest option, with its value if that is there, unless it
is checked and kept already. -/
structure Scan where
  arguments : Arguments := {}
  pending : Option (Flag × Option String) := none
deriving DecidableEq, Repr

def Scan.settle (s : Scan) : Except Refusal Arguments :=
  match s.pending with
  | none => .ok s.arguments
  | some (f, value) => s.arguments.keep f value

def Scan.next (s : Scan) (f : Flag) (value : Option String) : Except Refusal Scan :=
  match s.settle with
  | .error e => .error e
  | .ok a =>
    if value.isSome then (a.keep f value).map fun a => ⟨a, none⟩ else .ok ⟨a, some (f, none)⟩

inductive Word where
  | escape
  | long (name : String) (value : Option String)
  | short (c : Char)
  | plain (s : String)
deriving DecidableEq, Repr

def Word.ofString (s : String) : Word :=
  match s.toList with
  | '-' :: '-' :: [] => .escape
  | '-' :: '-' :: cs =>
    match Text.splitFirst? '=' cs with
    | some (name, value) => .long (String.ofList name) (some (String.ofList value))
    | none => .long (String.ofList cs) none
  | '-' :: c :: _ => .short c
  | _ => .plain s

def Scan.report (s : Scan) (value : Option String) (r : Refusal) : Except Refusal Scan :=
  match value, s.settle with
  | some _, _ => .error .tooManyValues
  | none, .error e => .error e
  | none, .ok _ => .error r

def Scan.long (s : Scan) (p : Place) (name : String) (value : Option String) :
    Except Refusal Scan :=
  match p.flag? name with
  | some f => s.next f value
  | none =>
    if name = "help" then s.report value (.help p.topic)
    else if name = "version" ∧ p = .top then s.report value .version
    else .error .unknownArgument

def Scan.short (s : Scan) (p : Place) (c : Char) : Except Refusal Scan :=
  if c = 'h' then s.report none (.help p.topic)
  else if c = 'V' ∧ p = .top then s.report none .version
  else .error .unknownArgument

def Scan.expects? (s : Scan) : Option Flag :=
  match s.pending with
  | some (f, none) => some f
  | _ => none

inductive Stop where
  | finished
  | escaped (rest : List String)
  | word (s : String) (rest : List String)

def options (p : Place) (s : Scan) : List String → Except Refusal (Scan × Stop)
  | [] => .ok (s, .finished)
  | arg :: rest =>
    match Word.ofString arg with
    | .escape => .ok (s, .escaped rest)
    | .long name value =>
      match s.long p name value with
      | .ok s => options p s rest
      | .error e => .error e
    | .short c =>
      match s.short p c with
      | .ok s => options p s rest
      | .error e => .error e
    | .plain word =>
      match s.expects? with
      | some f => options p { s with pending := some (f, some word) } rest
      | none => .ok (s, .word word rest)

def onlyOptions (p : Place) (args : List String) : Except Refusal Arguments :=
  match options p {} args with
  | .error e => .error e
  | .ok (s, .finished) => s.settle
  | .ok (s, .escaped []) => s.settle
  | .ok (_, _) => .error .unknownArgument

def helpOn : List String → Refusal
  | [] => .help .program
  | [word] =>
    match Topic.ofCommand? word with
    | some t => .help t
    | none => .invalidSubcommand
  | _ => .invalidSubcommand

def command (name : String) (rest : List String) : Except Refusal Command :=
  if name = "run" then (onlyOptions .run rest).map .run
  else if name = "stop" then (onlyOptions .stop rest).map fun a => .stop a.channel
  else if name = "help" then .error (helpOn rest)
  else .error .invalidSubcommand

def misplaced (word : String) : Refusal :=
  if (Topic.ofCommand? word).isSome then .unknownArgument else .invalidSubcommand

def parse (args : List String) : Except Refusal Command :=
  match options .top {} args with
  | .error e => .error e
  | .ok (s, .finished) => s.settle.map .run
  | .ok (s, .escaped []) => s.settle.map .run
  | .ok (_, .escaped (word :: _)) => .error (misplaced word)
  | .ok (s, .word name rest) =>
    match command name rest, s.settle with
    | .error e, _ => .error e
    | .ok _, .error e => .error e
    | .ok c, .ok _ => .ok c

end Rendezvous.CommandLine
