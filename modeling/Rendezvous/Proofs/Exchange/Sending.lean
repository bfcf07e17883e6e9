import Rendezvous.Proofs.Exchange.Traffic
import Rendezvous.Proofs.Room.Relay
import Rendezvous.Proofs.Worker.Seats

namespace Rendezvous

namespace Room

variable {ice : Ice} {room : Room} {e : Event} {v : ConnectionId} {l : Letter}

def destination? (room : Room) (text : String) : Option ConnectionId :=
  match Request.parse text with
  | .ok (.message recipient _ _) => room.peers.connectionOf? recipient
  | _ => none

def addressed (room : Room) (u v : ConnectionId) : Action → List String
  | .message w (.text text) => if w = u ∧ room.destination? text = some v then [text] else []
  | _ => []

def Posts (turn : Turn) (v : ConnectionId) (l : Letter) : Prop :=
  (v, l) ∈ turn.outbox.letters ∨ ∃ n ∈ turn.outbox.notices, (v, l) = n.address

lemma receiver_step (h : room.peers.Linked) (hv : Posts (room.step ice e) v l) :
    (∃ text, e = .text v text) ∨ (∃ p ∈ room.peers.peers, p.connection = v) ∧ e ≠ .closed v := by
  rcases hv with hletter | ⟨n, hn, haddress⟩
  · cases issues_step hletter with
    | answer _ _ => exact Or.inl ⟨_, rfl⟩
    | relay _ hw =>
      obtain ⟨p, hp, -, hconnection⟩ := h.connectionOf?_eq_some.mp hw
      exact Or.inr ⟨⟨p, hp, hconnection⟩, nofun⟩
  · obtain rfl : v = n.receiver := congrArg Prod.fst haddress
    rw [(outcome_step ice room e).notices] at hn
    cases hparted : room.parted? e with
    | none =>
      rw [hparted] at hn
      cases hn
    | some x =>
      rw [hparted] at hn
      obtain ⟨c, -, hc⟩ := List.mem_filterMap.mp hn
      obtain ⟨w, hw, rfl⟩ := Option.map_eq_some_iff.mp hc
      have hleave : (room.leave e.connection).2.peers.Linked := h.signOut
      obtain ⟨p, hp, -, hconnection⟩ := hleave.connectionOf?_eq_some.mp hw
      obtain ⟨hold, hne⟩ := PeerTable.mem_move_leave h hp
      refine Or.inr ⟨⟨p, hold, hconnection⟩, ?_⟩
      rintro rfl
      exact hne hconnection.symm

end Room

def Dispatch.passes (v : ConnectionId) (d : Dispatch) : Bool :=
  match d.cause with
  | .closed _ => false
  | .text u text => u = v && match Request.parse text with
    | .ok (.message _ _ _) => true
    | _ => false

namespace Traffic

variable {ice : Ice} {t : Traffic} {r : Registry} {e : Event} {v u : ConnectionId} {text : String}

lemma act_dispatches (ice : Ice) (t : Traffic) (r : Registry) (e : Event) :
    ∃ new, (t.act ice r e).2.dispatches = t.dispatches ++ new ∧ new.map Dispatch.call =
      (t.act ice r e).1.map fun m => (e, m.receiver, m.letter.text, r.find? m.receiver) :=
  (outlet_lists r e).act ice t.exchange.room e

lemma posts_of_mem_act {m : Sent} (hm : m ∈ (t.act ice r e).1) :
    Room.Posts (t.exchange.room.step ice e) m.receiver m.letter := Outlet.mem_deliver hm

lemma act_relay (ice : Ice) (t : Traffic) (r : Registry) (v : ConnectionId) {recipient : PeerId}
    {sender : Option PeerId} {kind : Option String}
    (h : Request.parse text = .ok (.message recipient sender kind)) :
    (t.act ice r (.text v text)).1.map Sent.address =
      (t.exchange.room.destination? text).toList.map fun w => (w, .relay text) := by
  have hdestination : t.exchange.room.destination? text =
      t.exchange.room.peers.connectionOf? recipient := by rw [Room.destination?, h]
  have hact : (t.act ice r (.text v text)).1 = ((outlet r (.text v text)).deliver
    (t.exchange.room.step ice (.text v text)).outbox _).1 := rfl
  rw [hact, hdestination]
  cases hw : t.exchange.room.peers.connectionOf? recipient with
  | none =>
    rw [(Room.step_drop h hw).2]
    rfl
  | some w =>
    rw [Room.step_relay h hw]
    rfl

def Of (ice : Ice) (t : Traffic) (r : Registry) (e : Event) (ds : List Dispatch) : Prop :=
  ds.map Dispatch.call =
    (t.act ice r e).1.map fun m => (e, m.receiver, m.letter.text, r.find? m.receiver)

variable {ds : List Dispatch} {d : Dispatch}

lemma Of.call_of_mem (h : Of ice t r e ds) (hd : d ∈ ds) : d.cause = e ∧
    d.place = r.find? d.receiver ∧ ∃ l, Room.Posts (t.exchange.room.step ice e) d.receiver l := by
  have hcall : d.call ∈ ds.map Dispatch.call := List.mem_map_of_mem hd
  rw [h] at hcall
  obtain ⟨m, hm, hcall⟩ := List.mem_map.mp hcall
  obtain ⟨hcause, hreceiver, -, hplace⟩ : e = d.cause ∧ m.receiver = d.receiver ∧ _ ∧
      r.find? m.receiver = d.place := by simpa [Dispatch.call] using hcall
  exact ⟨hcause.symm, by rw [← hplace, hreceiver], m.letter, hreceiver ▸ posts_of_mem_act hm⟩

def passed (u v : ConnectionId) (ds : List Dispatch) : List Dispatch :=
  (ds.filter fun d => d.receiver = v).filter (Dispatch.passes u)

lemma passed_append {es : List Dispatch} :
    passed u v (ds ++ es) = passed u v ds ++ passed u v es := by
  rw [passed, List.filter_append, List.filter_append]
  rfl

lemma passed_singleton : passed u v [d] = if d.passes u ∧ d.receiver = v then [d] else [] := by
  rw [passed, List.filter_filter]
  simp only [List.filter_cons, List.filter_nil, Bool.and_eq_true, decide_eq_true_eq]

lemma Of.passed_eq_nil (h : Of ice t r e ds)
    (he : ∀ d : Dispatch, d.cause = e → d.passes u = false) : passed u v ds = [] := by
  refine List.filter_eq_nil_iff.mpr fun d hd => ?_
  have hcause := (h.call_of_mem (List.mem_filter.mp hd).1).1
  simp [he d hcause]

lemma Of.passed_text (h : Of ice t r (.text v text) ds) {w : ConnectionId} :
    (passed u w ds).map Dispatch.text =
      t.exchange.room.addressed u w (.message v (.text text)) := by
  rw [Room.addressed]
  cases hr : Request.parse text with
  | error f =>
    rw [h.passed_eq_nil fun d hd => by simp [Dispatch.passes, hd, hr], Room.destination?, hr]
    simp
  | ok request =>
    cases request with
    | signIn | signOut | exist =>
      rw [h.passed_eq_nil fun d hd => by simp [Dispatch.passes, hd, hr], Room.destination?, hr]
      simp
    | message recipient sender kind =>
      have hsent := act_relay ice t r v hr
      rw [Of] at h
      cases hw : t.exchange.room.destination? text with
      | none =>
        rw [hw] at hsent
        rw [List.map_eq_nil_iff.mp hsent] at h
        rw [List.map_eq_nil_iff.mp h]
        simp [passed]
      | some target =>
        rw [hw] at hsent
        obtain ⟨m, hm, haddress⟩ := List.map_eq_singleton_iff.mp hsent
        obtain ⟨hreceiver, hletter⟩ := Prod.mk.inj haddress
        rw [hm] at h
        obtain ⟨d, rfl, hcall⟩ := List.map_eq_singleton_iff.mp h
        obtain ⟨hcause, hto, htext, -⟩ : d.cause = .text v text ∧ d.receiver = m.receiver ∧
          d.text = m.letter.text ∧ d.place = r.find? m.receiver := by
            simpa [Dispatch.call] using hcall
        have htext : d.text = text := htext.trans (congrArg Letter.text hletter)
        have hpasses : d.passes u ↔ v = u := by simp [Dispatch.passes, hcause, hr]
        have hsame : (d.passes u ∧ d.receiver = w) ↔ v = u ∧ some target = some w := by
          rw [hpasses, hto, hreceiver, Option.some_inj]
        rw [passed_singleton]
        simp only [hsame]
        split
        · exact congrArg (fun s => [s]) htext
        · rfl

end Traffic

end Rendezvous
