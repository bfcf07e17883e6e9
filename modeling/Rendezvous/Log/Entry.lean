namespace Rendezvous.Log

inductive Level where
  | trace | debug | info | warn | error
deriving DecidableEq, Repr

def Level.rank : Level → Nat
  | .trace => 0
  | .debug => 1
  | .info => 2
  | .warn => 3
  | .error => 4

def Level.name : Level → String
  | .trace => "trace"
  | .debug => "debug"
  | .info => "info"
  | .warn => "warn"
  | .error => "error"

def Level.label : Level → String
  | .trace => "TRACE"
  | .debug => "DEBUG"
  | .info => "INFO"
  | .warn => "WARN"
  | .error => "ERROR"

structure Entry where
  level : Level
  message : String
deriving DecidableEq, Repr

def Entry.line (e : Entry) : String := e.level.label ++ " " ++ e.message

def trace (message : String) : Entry := ⟨.trace, message⟩
def debug (message : String) : Entry := ⟨.debug, message⟩
def info (message : String) : Entry := ⟨.info, message⟩
def warn (message : String) : Entry := ⟨.warn, message⟩

end Rendezvous.Log
