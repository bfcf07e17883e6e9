import Rendezvous.Ice

namespace Rendezvous

inductive Failure where
  | configuration (text : String)
  | iceDescriptor (descriptor reason : String)
  | io (text : String)
  | internal (text : String)
deriving DecidableEq, Repr

namespace Failure

def message : Failure → String
  | .configuration text => "Konfigurationsfehler: " ++ text
  | .iceDescriptor descriptor reason => Ice.describe descriptor reason
  | .io text => "IO-Fehler: " ++ text
  | .internal text => "Interner Fehler: " ++ text

def atStart : Failure → Bool
  | .configuration _ => true
  | .iceDescriptor .. => true
  | .io _ => false
  | .internal _ => false

end Failure

def Ice.read (descriptor : String) : Except Failure Ice :=
  match Ice.ofDescriptor descriptor with
  | .ok ice => .ok ice
  | .error fault => .error (.iceDescriptor descriptor fault.reason)

end Rendezvous
