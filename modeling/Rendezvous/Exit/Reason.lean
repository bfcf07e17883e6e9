namespace Rendezvous.Exit

inductive Reason where
  | stop
  | abort
deriving DecidableEq, Repr

namespace Reason

def octet : Reason → UInt8
  | stop => 0x53
  | abort => 0x41

def ofOctet? (b : UInt8) : Option Reason :=
  if b = octet stop then some stop
  else if b = octet abort then some abort
  else none

def name : Reason → String
  | stop => "stopp"
  | abort => "abgebrochen"

end Reason

end Rendezvous.Exit
