namespace Rendezvous.Connection

structure Pipe where
  capacity : Nat
  octets : List UInt8 := []
  finished : Bool := false
  deaf : Bool := false

namespace Pipe

def room (p : Pipe) : Nat := p.capacity - p.octets.length

def isBroken (p : Pipe) : Bool := p.deaf || p.finished

def write (p : Pipe) (bs : List UInt8) : List UInt8 × Pipe :=
  if p.isBroken then (bs, p)
  else (bs.drop p.room, { p with octets := p.octets ++ bs.take p.room })

def read (p : Pipe) (most : Nat) : List UInt8 × Pipe :=
  (p.octets.take most, { p with octets := p.octets.drop most })

def readAll (p : Pipe) : List UInt8 × Pipe := (p.octets, { p with octets := [] })

def finish (p : Pipe) : Pipe := { p with finished := true }

def close (p : Pipe) : Pipe := { p with deaf := true }

def atEnd (p : Pipe) : Bool := p.octets.isEmpty && p.finished

end Pipe

end Rendezvous.Connection
