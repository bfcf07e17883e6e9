import Rendezvous.Connection.Pipe
import Rendezvous.Connection.Task
import Rendezvous.Http.Handshake
import Rendezvous.Post
import Rendezvous.WebSocket.Session

/-!
A connection on its two pipes. It moves until nothing more can happen without the client, the
worker or the clock.
-/

namespace Rendezvous.Connection

structure Surroundings where
  now : Time := 0
  shutdown : Bool := false
  queue : ActionQueue := .empty
  registry : Registry := .empty
  post : Post := .empty

def Surroundings.holds (s : Surroundings) (k : MailboxKey) : Bool :=
  s.registry.holds k || s.queue.actions.any fun a => match a with
    | .subscribe _ h => h.mailbox == k
    | _ => false

inductive Stage where
  | head (h : Http.Handshake)
  | response (r : Http.Handshake.Result) (octets : List UInt8)
  | frames (s : WebSocket.Session)

structure Endpoint where
  task : Task
  stage : Stage := .head .start
  input : Pipe
  output : Pipe

namespace Endpoint

abbrev Move := Option (Endpoint × Surroundings)

def session (e : Endpoint) : WebSocket.Session :=
  match e.stage with
  | .frames s => s
  | _ => .start []

def perform (e : Endpoint) (w : Surroundings) : Effect → Endpoint × Surroundings
  | .enqueue a => (e, { w with queue := w.queue.enqueue a })
  | .write m _ => ({ e with stage := .frames (e.session.send m) }, w)
  | .finish _ => ({ e with stage := .frames e.session.close }, w)

def release (e : Endpoint) (w : Surroundings) : Endpoint × Surroundings :=
  if e.task.hasEnded then
    ({ e with input := e.input.close, output := e.output.finish },
      { w with post := w.post.abandon e.task.handle.mailbox })
  else (e, w)

def start (task : Task) (capacity : Nat) (w : Surroundings) : Endpoint × Surroundings :=
  release { task := task, input := { capacity := capacity }, output := { capacity := capacity } } w

def meet (e : Endpoint) (w : Surroundings) (i : Incident) : Endpoint × Surroundings :=
  let (task, effects) := e.task.step w.now i
  let (e, w) := effects.foldl (fun s f => perform s.1 s.2 f) ({ e with task := task }, w)
  e.release w

def readHead (e : Endpoint) (w : Surroundings) (h : Http.Handshake) : Move :=
  let settle (input : Pipe) : Http.Handshake.Progress → Move
    | .waiting h => some ({ e with stage := .head h, input := input }, w)
    | .done (.failed _) _ => some ({ e with input := input }.meet w .turnedAway)
    | .done r response => some ({ e with stage := .response r response, input := input }, w)
  if !e.input.octets.isEmpty then
    let (piece, input) := e.input.read Http.pieceSize
    settle input (h.receive piece)
  else if e.input.finished then settle e.input h.endOfStream
  else none

def writeResponse (e : Endpoint) (w : Surroundings) (r : Http.Handshake.Result)
    (octets : List UInt8) : Move :=
  if octets.isEmpty then
    match r with
    | .webSocket rest => some ({ e with stage := .frames (.start rest) }.meet w .upgraded)
    | _ => some (e.meet w .turnedAway)
  else if e.output.isBroken then some (e.meet w .turnedAway)
  else if e.output.room = 0 then none
  else
    let (octets, output) := e.output.write octets
    some ({ e with stage := .response r octets, output := output }, w)

def keepSession (e : Endpoint) (s : WebSocket.Session) : Endpoint := { e with stage := .frames s }

def flush (e : Endpoint) (s : WebSocket.Session) : Endpoint :=
  let (outbox, output) := e.output.write s.outbox
  { e with stage := .frames { s with outbox := outbox }, output := output }

def cannotFlush (e : Endpoint) (s : WebSocket.Session) : Bool :=
  !s.outbox.isEmpty && e.output.isBroken

def canFlush (e : Endpoint) (s : WebSocket.Session) : Bool :=
  !s.outbox.isEmpty && !e.output.isBroken && e.output.room != 0

def writeOut (e : Endpoint) (w : Surroundings) (s : WebSocket.Session) : Move :=
  if s.outbox.isEmpty then some (e.meet w .written)
  else if e.cannotFlush s then some (e.meet w .writeFailed)
  else if e.canFlush s then some (e.flush s, w)
  else none

def readIn (e : Endpoint) (w : Surroundings) (s : WebSocket.Session) : Move :=
  if s.answer.isSome then some (e.keepSession s.sendAnswer, w)
  else if e.cannotFlush s then some (e.meet w .broken)
  else if e.canFlush s then some (e.flush s, w)
  else
    match s.read with
    | (.message m, s) => some ((e.keepSession s).meet w (.message m))
    | (.failed, s) => some ((e.keepSession s).meet w .broken)
    | (.waiting, s) =>
      if !e.input.octets.isEmpty then
        let (octets, input) := e.input.readAll
        some ({ e with input := input }.keepSession (s.receive octets), w)
      else if e.input.finished then some ((e.keepSession s.endOfStream).meet w .broken)
      else none

def takeOrder (e : Endpoint) (w : Surroundings) : Move :=
  let k := e.task.handle.mailbox
  match w.post.take k with
  | (some o, post) => some (e.meet { w with post := post } (.order o))
  | (none, _) => if w.holds k then none else some (e.meet w .released)

def moveIdle (e : Endpoint) (w : Surroundings) (s : WebSocket.Session) : Move :=
  if w.shutdown then some (e.meet w .shutdown)
  else (e.takeOrder w).or (e.readIn w s)

def advance (e : Endpoint) (w : Surroundings) : Move :=
  match e.task.phase, e.stage with
  | .handshake _, .head h => e.readHead w h
  | .handshake _, .response r octets => e.writeResponse w r octets
  | .idle, .frames s => e.moveIdle w s
  | .writing _, .frames s => e.writeOut w s
  | .parting _, .frames s => e.writeOut w s
  | .finishing _, .frames s => e.writeOut w s
  | _, _ => none

/-- A deadline counts only when nothing else can happen. -/
def expire (e : Endpoint) (w : Surroundings) : Move :=
  let (after, w) := e.meet w .tick
  if after.task = e.task then none else some (after, w)

def move (e : Endpoint) (w : Surroundings) : Move := (e.advance w).or (e.expire w)

def moves : Nat → Endpoint → Surroundings → Endpoint × Surroundings
  | 0, e, w => (e, w)
  | bound + 1, e, w =>
    match e.move w with
    | none => (e, w)
    | some (e, w) => moves bound e w

def work (e : Endpoint) (w : Surroundings) : Nat :=
  let orders := (w.post.box? e.task.handle.mailbox).map fun m => m.orders.length
  4 * (e.input.octets.length + e.session.inbox.length + orders.getD 0) + 32

def settle (e : Endpoint) (w : Surroundings) : Endpoint × Surroundings := e.moves (e.work w) w

end Endpoint

end Rendezvous.Connection
