import Rendezvous.WebSocket.Message

namespace Rendezvous.WebSocket

inductive Standing where
  | active
  | closing
  | closed
  | ended
deriving DecidableEq, Repr

structure Session where
  standing : Standing := .active
  inbox : List UInt8 := []
  assembly : Option Assembly := none
  /-- An answer to a ping or a close, sent with the next output or before the next input. -/
  answer : Option Frame := none
  outbox : List UInt8 := []

namespace Session

def start (rest : List UInt8) : Session := { inbox := rest }

def append (s : Session) (f : Frame) : Session := { s with outbox := s.outbox ++ f.encode }

def sendAnswer (s : Session) : Session :=
  match s.answer with
  | none => s
  | some f => { s.append f with answer := none }

def send (s : Session) (m : Message) : Session :=
  if s.standing = .active then
    let standing := match m with
      | .close _ => .closing
      | _ => .active
    { (s.append m.frame).sendAnswer with standing := standing }
  else s

def close (s : Session) : Session :=
  if s.standing = .active then s.send (.close none) else s.sendAnswer

def react (s : Session) : Message → Session
  | .ping bs => { s with answer := some (Message.pong bs).frame }
  | .close c =>
    { s with standing := .closed, answer := some (closeFrame (c.map CloseReason.echo)) }
  | _ => s

inductive Read where
  | waiting
  | message (m : Message)
  | failed
deriving DecidableEq, Repr

def readFrames : Nat → Session → Read × Session
  | 0, s => (.waiting, s)
  | bound + 1, s =>
    match Frame.read Assembly.greatestFrameSize s.inbox with
    | .more => (.waiting, s)
    | .invalid => (.failed, s)
    | .done f rest =>
      let s := { s with inbox := rest }
      match take s.assembly f with
      | .refused => (.failed, s)
      | .partly a => readFrames bound { s with assembly := some a }
      | .message m a => (.message m, { s with assembly := a }.react m)

def read (s : Session) : Read × Session :=
  let s := s.sendAnswer
  readFrames (s.inbox.length + 1) s

def receive (s : Session) (bs : List UInt8) : Session := { s with inbox := s.inbox ++ bs }

def endOfStream (s : Session) : Session := { s with standing := .ended }

end Session

end Rendezvous.WebSocket
