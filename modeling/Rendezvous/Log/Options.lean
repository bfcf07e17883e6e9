import Rendezvous.Log.Entry
import Rendezvous.Text.Blank

namespace Rendezvous.Log

inductive Format where
  | text | json
deriving DecidableEq, Repr

inductive Fault where
  | level (given : String)
  | format (given : String)
deriving DecidableEq, Repr

def Fault.message : Fault → String
  | .level s =>
    "Ungueltiges Log-Level '" ++ s ++ "' (erlaubt: trace, debug, info, warn, error, 0-5)"
  | .format s => "Ungueltiges Log-Format '" ++ s ++ "' (erlaubt: text, json)"

def Format.ofName? : String → Option Format
  | "text" => some .text
  | "json" => some .json
  | _ => none

def Level.ofName? : String → Option Level
  | "trace" | "0" => some .trace
  | "debug" | "1" => some .debug
  | "info" | "2" => some .info
  | "warn" | "3" => some .warn
  | "error" | "4" | "5" => some .error
  | _ => none

def readLevel (s : String) : Except Fault Level :=
  match Level.ofName? (Text.trim s) with
  | some l => .ok l
  | none => .error (.level (Text.trim s))

def readFormat (s : String) : Except Fault Format :=
  match Format.ofName? s with
  | some f => .ok f
  | none => .error (.format s)

def chooseFormat (environment : Option String) (configured : Format) : Format :=
  (environment.bind Format.ofName?).getD configured

end Rendezvous.Log
