import Rendezvous.Connection.Endpoint
import Rendezvous.Exchange

/-!
The whole server in memory: connections on pipes, the queue of their actions, and the worker with
the room. Connections move first, then the worker, until all is at rest.
-/

namespace Rendezvous

open Connection (Endpoint Surroundings Time)

structure Terms where
  ice : Ice := .none
  pongTime : Time := 15000
  handshakeTime : Time := 10000
  pipeCapacity : Nat := 0x100000

structure Hub where
  terms : Terms := {}
  now : Time := 0
  shutdown : Bool := false
  queue : ActionQueue := .empty
  worker : Worker Exchange := { state := {} }
  endpoints : List (ConnectionId × Endpoint) := []
  fresh : ConnectionId := 1

namespace Hub

def start (terms : Terms) : Hub := { terms := terms }

def surroundings (h : Hub) : Surroundings :=
  ⟨h.now, h.shutdown, h.queue, h.worker.registry, h.worker.state.post⟩

def withPost (h : Hub) (post : Post) : Hub :=
  { h with worker := { h.worker with state := { h.worker.state with post := post } } }

def keep (h : Hub) (w : Surroundings) : Hub := { h with queue := w.queue }.withPost w.post

def settleEach (w : Surroundings) :
    List (ConnectionId × Endpoint) → List (ConnectionId × Endpoint) × Surroundings
  | [] => ([], w)
  | (v, e) :: rest =>
    let (e, w) := e.settle w
    let (others, w) := settleEach w rest
    ((v, e) :: others, w)

def settleConnections (h : Hub) : Hub :=
  let (endpoints, w) := settleEach h.surroundings h.endpoints
  { h.keep w with endpoints := endpoints }

def work (h : Hub) : Hub :=
  let (_, _, worker) := Worker.drain (Exchange.handler h.terms.ice) h.queue.actions h.worker
  { h with queue := .empty, worker := worker }

def rounds : Nat → Hub → Hub
  | 0, h => h
  | bound + 1, h =>
    let h := h.settleConnections
    if h.queue.isEmpty then h else rounds bound h.work

def settle (h : Hub) : Hub := h.rounds (2 * h.endpoints.length + 4)

def connect (h : Hub) (l : Listener) : ConnectionId × Hub :=
  let v := h.fresh
  let (mailbox, post) := h.worker.state.post.create
  let h := h.withPost post
  let task := Connection.Task.start l ⟨v, mailbox⟩ h.terms.pongTime h.terms.handshakeTime h.now
    h.shutdown
  let (e, w) := Endpoint.start task h.terms.pipeCapacity h.surroundings
  (v, { h.keep w with endpoints := h.endpoints ++ [(v, e)], fresh := v + 1 })

def endpoint? (h : Hub) (v : ConnectionId) : Option Endpoint := h.endpoints.lookup v

def change (h : Hub) (v : ConnectionId) (f : Endpoint → Endpoint) : Hub :=
  { h with endpoints := h.endpoints.map fun (u, e) => if u = v then (u, f e) else (u, e) }

def clientWrite (h : Hub) (v : ConnectionId) (bs : List UInt8) : List UInt8 × Hub :=
  match h.endpoint? v with
  | none => (bs, h)
  | some e =>
    let (left, input) := e.input.write bs
    (left, h.change v fun e => { e with input := input })

def clientRead (h : Hub) (v : ConnectionId) : List UInt8 × Hub :=
  match h.endpoint? v with
  | none => ([], h)
  | some e =>
    let (octets, output) := e.output.readAll
    (octets, h.change v fun e => { e with output := output })

def clientFinish (h : Hub) (v : ConnectionId) : Hub :=
  h.change v fun e => { e with input := e.input.finish }

def clientDrop (h : Hub) (v : ConnectionId) : Hub :=
  h.change v fun e => { e with input := e.input.finish, output := e.output.close }

def isOver (h : Hub) (v : ConnectionId) : Bool :=
  match h.endpoint? v with
  | none => true
  | some e => e.output.atEnd

def passTime (h : Hub) (d : Time) : Hub := { h with now := h.now + d }

def shutDown (h : Hub) : Hub := { h with shutdown := true }

def broadcast (h : Hub) (o : Order) : Nat × Hub :=
  let (receipts, post) := h.worker.state.post.broadcast h.worker.registry o
  (Post.taken receipts, h.withPost post)

def pingAll (h : Hub) : Nat × Hub := h.broadcast .ping

end Hub

end Rendezvous
