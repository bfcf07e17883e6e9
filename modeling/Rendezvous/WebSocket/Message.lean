import Rendezvous.Text.Utf8
import Rendezvous.WebSocket.Frame

namespace Rendezvous.WebSocket

structure CloseReason where
  code : Nat
  reason : String
deriving DecidableEq, Repr

namespace CloseReason

def isAllowed (code : Nat) : Bool :=
  (1000 ≤ code && code ≤ 1003) || (1007 ≤ code && code ≤ 1013) || (3000 ≤ code && code ≤ 4999)

def protocolViolation : CloseReason := ⟨1002, "Protocol violation"⟩

def echo (c : CloseReason) : CloseReason := if isAllowed c.code then c else protocolViolation

def payload (c : CloseReason) : List UInt8 := octetsOfNat 2 c.code ++ Text.encode c.reason

end CloseReason

def closeFrame (c : Option CloseReason) : Frame :=
  { opcode := .close, payload := (c.map CloseReason.payload).getD [] }

inductive Message where
  | text (s : String)
  | binary (bs : List UInt8)
  | ping (bs : List UInt8)
  | pong (bs : List UInt8)
  | close (c : Option CloseReason)
deriving DecidableEq, Repr

def Message.frame : Message → Frame
  | .text s => { opcode := .text, payload := Text.encode s }
  | .binary bs => { opcode := .binary, payload := bs }
  | .ping bs => { opcode := .ping, payload := bs }
  | .pong bs => { opcode := .pong, payload := bs }
  | .close c => closeFrame c

inductive Assembly where
  | text (size : Nat) (reader : Text.Utf8.Reader)
  | binary (size : Nat) (parts : List (List UInt8))

namespace Assembly

def greatestFrameSize : Nat := 0x1000000
def greatestMessageSize : Nat := 0x4000000

def emptyText : Assembly := .text 0 .start
def emptyBinary : Assembly := .binary 0 []

def size : Assembly → Nat
  | .text n _ => n
  | .binary n _ => n

def extend (a : Assembly) (bs : List UInt8) : Option Assembly :=
  let n := a.size + bs.length
  if greatestMessageSize < n then none
  else
    match a with
    | .text _ reader => (reader.feed bs).map (.text n)
    | .binary _ parts => some (.binary n (bs :: parts))

def finish? : Assembly → Option Message
  | .text _ reader => reader.finish?.map .text
  | .binary _ parts => some (.binary parts.reverse.flatten)

end Assembly

inductive Intake where
  | partly (a : Assembly)
  | message (m : Message) (a : Option Assembly)
  | refused

def greatestControlSize : Nat := 125

def readClose : List UInt8 → Option (Option CloseReason)
  | [] => some none
  | [_] => none
  | a :: b :: bs => (Text.decode? bs).map fun s => some ⟨natOfOctets [a, b], s⟩

def takeControl (open? : Option Assembly) (f : Frame) : Intake :=
  if !f.final || greatestControlSize < f.payload.length then .refused
  else
    match f.opcode with
    | .ping => .message (.ping f.payload) open?
    | .pong => .message (.pong f.payload) open?
    | _ =>
      match readClose f.payload with
      | some c => .message (.close c) open?
      | none => .refused

def addData (a : Assembly) (f : Frame) : Intake :=
  match a.extend f.payload with
  | none => .refused
  | some a =>
    if f.final then
      match a.finish? with
      | some m => .message m none
      | none => .refused
    else .partly a

def takeData (open? : Option Assembly) (f : Frame) : Intake :=
  match f.opcode, open? with
  | .continuation, some a => addData a f
  | .text, none => addData .emptyText f
  | .binary, none => addData .emptyBinary f
  | _, _ => .refused

def take (open? : Option Assembly) (f : Frame) : Intake :=
  if f.mask.isNone || f.reserved != 0 then .refused
  else if f.opcode.isControl then takeControl open? f
  else takeData open? f

end Rendezvous.WebSocket
