import Rendezvous.Http.Upgrade

/-!
The handshake on a fresh connection: the request head is read in pieces, and answered once.
-/

namespace Rendezvous.Http

/-- A head may be longer only if it is complete with the piece that exceeds the limit. -/
def greatestHeadSize : Nat := 8 * 1024

def pieceSize : Nat := 1024

structure Handshake where
  reader : HeadReader := .start
  size : Nat := 0

namespace Handshake

inductive Fault where
  | invalidHead
  | tooLarge
  | truncated
deriving DecidableEq, Repr

def Fault.message : Fault → String
  | .invalidHead => "Ungueltiger HTTP-Kopf"
  | .tooLarge => "HTTP-Kopf zu gross"
  | .truncated => "Verbindung vor Ende des HTTP-Kopfs geschlossen"

inductive Result where
  | webSocket (rest : List UInt8)
  | answered
  | versionRefused
  | failed (f : Fault)
deriving DecidableEq, Repr

inductive Progress where
  | waiting (h : Handshake)
  | done (r : Result) (response : List UInt8)

def start : Handshake := {}

def answer (head : Head) (rest : List UInt8) : Progress :=
  let reaction := head.reaction
  let response := Text.encode reaction.text
  match reaction with
  | .accept _ => .done (.webSocket rest) response
  | .refuseVersion => .done .versionRefused response
  | .page => .done .answered response

def fail (f : Fault) : Progress := .done (.failed f) []

def receive (h : Handshake) (piece : List UInt8) : Progress :=
  match h.reader.feed piece with
  | .invalid => fail .invalidHead
  | .complete head rest => answer head rest
  | .more reader =>
    let size := h.size + piece.length
    if greatestHeadSize < size then fail .tooLarge else .waiting ⟨reader, size⟩

def endOfStream (_ : Handshake) : Progress := fail .truncated

def run (h : Handshake) : List (List UInt8) → Progress
  | [] => .waiting h
  | piece :: pieces =>
    match h.receive piece with
    | .waiting h => h.run pieces
    | .done r response => .done r response

end Handshake

end Rendezvous.Http
