import Rendezvous.Exchange
import Rendezvous.Proofs.Post
import Rendezvous.Proofs.Room.Simulation
import Rendezvous.Proofs.Worker.Simulation

/-! The exchange among receivers that empty their mailboxes or give them up, at any moment between
two things that the worker does. It keeps in mind what has been sent and what has become of it. -/

namespace Rendezvous

inductive Clearing where
  | take (k : MailboxKey)
  | abandon (k : MailboxKey)
deriving DecidableEq

/-- A text that the room sends because of an event, with the mailbox as it is at that moment. -/
structure Dispatch where
  cause : Event
  receiver : ConnectionId
  text : String
  place : Option MailboxKey
  found : Option Mailbox

def Dispatch.arrives (d : Dispatch) : Bool :=
  d.found.any fun m => !m.abandoned && m.orders.length < Mailbox.capacity

def Dispatch.order (d : Dispatch) : Order := .text d.text

structure Traffic where
  exchange : Exchange
  /-- What the receivers do before each of the next things that the worker does. -/
  ahead : List (List Clearing) := []
  dispatches : List Dispatch := []
  taken : List (MailboxKey × Order) := []
  left : List (MailboxKey × Order) := []

namespace Traffic

def post (t : Traffic) : Post := t.exchange.post

def clear (t : Traffic) : Clearing → Traffic
  | .take k =>
    let (order, post) := t.post.take k
    { t with
      exchange := { t.exchange with post := post }
      taken := t.taken ++ order.toList.map (k, ·) }
  | .abandon k =>
    { t with
      exchange := { t.exchange with post := t.post.abandon k }
      left := t.left ++ (t.post.waiting k).map (k, ·) }

def pause (t : Traffic) : Traffic :=
  match t.ahead with
  | [] => t
  | now :: later => now.foldl clear { t with ahead := later }

def note (e : Log.Entry) (t : Traffic) : Traffic :=
  let t := t.pause
  { t with exchange := t.exchange.note e }

def send (r : Registry) (cause : Event) (v : ConnectionId) (text : String) (t : Traffic) :
    Bool × Traffic :=
  let t := t.pause
  let place := r.find? v
  let (taken, exchange) := Exchange.send r v text t.exchange
  (taken, { t with
    exchange := exchange
    dispatches := t.dispatches ++ [⟨cause, v, text, place, place.bind t.post.box?⟩] })

def outlet (r : Registry) (cause : Event) : Outlet Traffic where
  send := send r cause
  isOpen v t := (t.pause.post.isConnected r v, t.pause)
  count t := (r.count, t.pause)
  note := note
  verbose t := t.exchange.journal.isSome

def act (ice : Ice) (r : Registry) (e : Event) (t : Traffic) : List Sent × Traffic :=
  let (room, sent, t) := t.exchange.room.act ice (outlet r e) t e
  (sent, { t with exchange := { t.exchange with room := room } })

def handler (ice : Ice) : Handler Traffic where
  text r v s t := (t.act ice r (.text v s)).2
  closed r v t := (t.act ice r (.closed v)).2
  note := note

section Erasure

variable {x : Exchange} {t : Traffic}

def Mirrors (x : Exchange) (t : Traffic) : Prop := x = t.exchange ∧ t.ahead = []

lemma Mirrors.pause (h : Mirrors x t) : t.pause = t := by
  rw [Traffic.pause, h.2]

lemma outlet_mirrors (r : Registry) (e : Event) :
    (Exchange.outlet r).Simulates (outlet r e) Mirrors where
  send {x t} h v text := by
    obtain ⟨rfl, hahead⟩ := h
    have hpause : t.pause = t := Mirrors.pause ⟨rfl, hahead⟩
    change _ = (send r e v text t).1 ∧ Mirrors _ (send r e v text t).2
    rw [send, hpause]
    exact ⟨rfl, rfl, hahead⟩
  isOpen {x t} h v := by
    have hpause := h.pause
    obtain ⟨rfl, hahead⟩ := h
    change _ = t.pause.post.isConnected r v ∧ Mirrors _ t.pause
    rw [hpause]
    exact ⟨rfl, rfl, hahead⟩
  count {x t} h := ⟨rfl, by change Mirrors _ t.pause; rw [h.pause]; exact h⟩
  note {x t} h e' := by
    change Mirrors _ (note e' t)
    rw [note, h.pause, h.1]
    exact ⟨rfl, h.2⟩
  verbose h := congrArg (fun x : Exchange => x.journal.isSome) h.1

lemma handler_mirrors (ice : Ice) : (Exchange.handler ice).Simulates (handler ice) Mirrors := by
  have hact {x : Exchange} {t : Traffic} (h : Mirrors x t) (r : Registry) (e : Event) :
      Mirrors (x.act ice r e).2 (t.act ice r e).2 := by
    have hlater := ((outlet_mirrors r e).act h ice t.exchange.room e).2
    obtain ⟨rfl, hahead⟩ := h
    let later := (t.exchange.room.step ice e).room
    exact ⟨congrArg (fun y : Exchange => { y with room := later }) hlater.1, hlater.2⟩
  exact
    { text := fun h r v s => hact h r (.text v s)
      closed := fun h r v => hact h r (.closed v)
      note := fun h e => by
        change Mirrors _ (note e _)
        rw [note, h.pause, h.1]
        exact ⟨rfl, h.2⟩ }

end Erasure

section Record

variable {t : Traffic}

lemma pause_keeps {α : Type} (f : Traffic → α) (hclear : ∀ t c, f (clear t c) = f t)
    (hahead : ∀ t later, f { t with ahead := later } = f t) : f t.pause = f t := by
  have hall (now : List Clearing) (t : Traffic) : f (now.foldl clear t) = f t := by
    induction now generalizing t with
    | nil => rfl
    | cons c now ih => exact (ih _).trans (hclear t c)
  rw [pause]
  cases t.ahead with
  | nil => rfl
  | cons now later => exact (hall now _).trans (hahead t later)

lemma dispatches_pause : t.pause.dispatches = t.dispatches :=
  pause_keeps dispatches (fun _ c => by cases c <;> rfl) fun _ _ => rfl

lemma room_pause : t.pause.exchange.room = t.exchange.room :=
  pause_keeps (fun t => t.exchange.room) (fun _ c => by cases c <;> rfl) fun _ _ => rfl

end Record

end Traffic

def Dispatch.call (d : Dispatch) : Event × ConnectionId × String × Option MailboxKey :=
  (d.cause, d.receiver, d.text, d.place)

namespace Traffic

lemma outlet_lists (r : Registry) (e : Event) :
    (outlet r e).Lists dispatches Dispatch.call fun v text => (e, v, text, r.find? v) where
  send _ _ _ := ⟨_, congrArg (· ++ _) dispatches_pause, rfl⟩
  isOpen _ _ := dispatches_pause
  count _ := dispatches_pause
  note _ _ := dispatches_pause

lemma handler_rooms (ice : Ice) :
    (Exchange.handler ice).Simulates (handler ice) fun x t => x.room = t.exchange.room where
  text h _ v s := congrArg (fun room : Room => (room.step ice (.text v s)).room) h
  closed h _ v := congrArg (fun room : Room => (room.step ice (.closed v)).room) h
  note h _ := h.trans room_pause.symm

end Traffic

end Rendezvous
