import Mathlib.Data.List.Induction
import Rendezvous.Exchange
import Rendezvous.Proofs.Peer.Consistency

namespace Rendezvous

inductive Move where
  | stay
  | leave
  | enter (name : String)
deriving DecidableEq, Repr

def Move.enters : Move → Bool
  | .enter _ => true
  | _ => false

def Event.move : Event → Move
  | .closed _ => .leave
  | .text _ document =>
    match Request.parse document with
    | .ok (.signIn name _) => .enter name
    | .ok (.signOut _) => .leave
    | _ => .stay

namespace PeerTable

def move (t : PeerTable) (v : ConnectionId) : Move → PeerTable
  | .stay => t
  | .leave => (t.signOut v).2
  | .enter name => ((t.signOut v).2.signIn name v).2

variable {t : PeerTable} {v : ConnectionId} {m : Move}

lemma Linked.move (h : t.Linked) : (t.move v m).Linked := by
  cases m with
  | stay => exact h
  | leave => exact h.signOut
  | enter name => exact h.signOut.signIn h.connection_ne_of_signOut

lemma Consistent.move (h : t.Consistent) (hfree : m.enters → (t.signOut v).2.HasFree) :
    (t.move v m).Consistent := by
  cases m with
  | stay => exact h
  | leave => exact h.signOut
  | enter name =>
    have hvacant : (t.signOut v).2.byConnection[v]? = none := by rw [byConnection_signOut, if_pos rfl]
    exact h.signOut.signIn hvacant (hfree rfl).freshId_not_mem

lemma size_move_le : (t.move v m).size ≤ t.size + 1 := by
  cases m with
  | stay => exact Nat.le_succ _
  | leave => exact Nat.le_succ_of_le size_signOut_le
  | enter name => exact Nat.le_trans size_signIn_le (Nat.succ_le_succ size_signOut_le)

end PeerTable

namespace Room

variable {σ : Type} (ice : Ice) (o : Outlet σ) (room : Room)

lemma leave_fst (v : ConnectionId) : (room.leave v).1 = room.peers.peerAt? v :=
  PeerTable.signOut_fst

lemma leave_eq (v : ConnectionId) : room.leave v = (room.peers.peerAt? v, (room.leave v).2) :=
  Prod.ext (room.leave_fst v) rfl

lemma peers_leave (v : ConnectionId) : (room.leave v).2.peers = (room.peers.signOut v).2 := rfl

lemma peers_replace (v : ConnectionId) :
    (room.replace v).room.peers = (room.peers.signOut v).2 := by
  rw [← peers_leave]
  unfold replace
  rcases room.leave v with ⟨_ | old, after⟩ <;> rfl

lemma peers_signOut (v : ConnectionId) (id : Option PeerId) :
    (room.signOut v id).room.peers = (room.peers.signOut v).2 := by
  rw [← peers_leave]
  unfold signOut
  rcases room.leave v with ⟨own, after⟩
  dsimp only
  cases id.or (own.map Peer.id) <;> rfl

lemma peers_message (v : ConnectionId) (text : String) (recipient : PeerId)
    (sender : Option PeerId) (kind : Option String) :
    (room.message v text recipient sender kind).room.peers = room.peers := by
  unfold message
  cases room.peers.connectionOf? recipient with
  | none => rfl
  | some target =>
    dsimp only
    split
    · cases room.caller? v sender <;> rfl
    · rfl

lemma peers_close (v : ConnectionId) : (room.close v).room.peers = (room.peers.signOut v).2 := by
  rw [← peers_leave]
  unfold close
  rcases room.leave v with ⟨_ | peer, after⟩ <;> rfl

lemma peers_step (e : Event) : (room.step ice e).room.peers = room.peers.move e.connection e.move := by
  cases e with
  | closed v => exact room.peers_close v
  | text v text =>
    cases h : Request.parse text with
    | error _ => simp only [step, receive, Event.move, h, PeerTable.move]
    | ok request =>
      simp only [step, receive, Event.move, Event.connection, h]
      cases request with
      | signIn name unlisted =>
        change ((room.replace v).room.peers.signIn name v).2 = _
        rw [peers_replace]
        rfl
      | signOut id => exact room.peers_signOut v id
      | message recipient sender kind => exact room.peers_message v text recipient sender kind
      | exist name => rfl

def after (es : List Event) : Room := es.foldl (fun room e => (room.step ice e).room) .empty

@[simp] lemma after_concat (es : List Event) (e : Event) :
    after ice (es ++ [e]) = ((after ice es).step ice e).room := by
  simp [after]

lemma run_room (es : List Event) (s : σ) :
    (run ice o es room s).2.1 = es.foldl (fun room e => (room.step ice e).room) room := by
  induction es generalizing room s with
  | nil => rfl
  | cons e es ih => exact ih _ _

lemma run_room_empty (es : List Event) (s : σ) : (run ice o es .empty s).2.1 = after ice es :=
  run_room ice o .empty es s

lemma linked_after (es : List Event) : (after ice es).peers.Linked := by
  induction es using List.reverseRecOn with
  | nil => exact PeerTable.consistent_empty.toLinked
  | append_singleton es e ih =>
    rw [after_concat, peers_step]
    exact ih.move

/-- Every sign-in of the run has found a number. While all of them are taken, the search for one
goes on for ever. -/
def Finishes (es : List Event) : Prop :=
  ∀ pre e, pre ++ [e] <+: es → e.move.enters →
    ((after ice pre).peers.signOut e.connection).2.HasFree

variable {ice} in
lemma Finishes.consistent {es : List Event} (h : Finishes ice es) :
    (after ice es).peers.Consistent := by
  induction es using List.reverseRecOn with
  | nil => exact PeerTable.consistent_empty
  | append_singleton es e ih =>
    rw [after_concat, peers_step]
    exact (ih fun pre f hp => h pre f (hp.trans (List.prefix_append _ _))).move
      (h es e (List.prefix_refl _))

lemma consistent_after (es : List Event)
    (h : ∀ pre, pre <+: es → (after ice pre).peers.size < PeerId.supply) :
    (after ice es).peers.Consistent := by
  refine Finishes.consistent fun pre e hp _ => PeerTable.hasFree_of_size_lt ?_
  exact Nat.lt_of_le_of_lt PeerTable.size_signOut_le (h pre ((List.prefix_append _ _).trans hp))

lemma size_after_le (es : List Event) : (after ice es).peers.size ≤ es.length := by
  induction es using List.reverseRecOn with
  | nil => exact Nat.le_refl 0
  | append_singleton es e ih =>
    rw [after_concat, peers_step, List.length_append, List.length_singleton]
    exact Nat.le_trans PeerTable.size_move_le (Nat.succ_le_succ ih)

theorem run_peers_consistent (es : List Event) (s : σ)
    (h : ∀ pre, pre <+: es → (run ice o pre .empty s).2.1.peers.size < PeerId.supply) :
    let t := (run ice o es .empty s).2.1.peers
    (∀ (id : PeerId) (p : Peer), t.byId[id]? = some p →
      p.id = id ∧ 0 ≤ id ∧ id ≤ PeerId.greatest) ∧
    (∀ (v : ConnectionId) (id : PeerId), t.byConnection[v]? = some id ↔
      ∃ p : Peer, t.byId[id]? = some p ∧ p.connection = v) ∧
    (∀ p ∈ t.peers, ∀ q ∈ t.peers, p.connection = q.connection → p = q) ∧
    (t.roster.map Prod.fst).Pairwise (· < ·) ∧
    ∀ (id : PeerId) (name : String), (id, name) ∈ t.roster ↔
      ∃ p : Peer, t.byId[id]? = some p ∧ p.name = name := by
  intro t
  have ht : t.Consistent := by
    simp only [run_room_empty] at h
    simpa only [t, run_room_empty] using consistent_after ice es h
  refine ⟨fun id p hp => ⟨ht.keyed hp, ht.valid hp⟩, fun v id => ⟨ht.seated, ?_⟩,
    fun p hp q hq => ht.connection_injective hp hq, ?_, fun id name => ht.mem_roster⟩
  · rintro ⟨p, hp, rfl⟩
    exact ht.indexed hp
  · rw [PeerTable.roster, List.map_map, List.pairwise_map]
    exact ht.peers_ascending

def visits : List Event :=
  [.text 1 "\x7b\"signal\":\"sign_in\",\"name\":\"a\"\x7d",
    .text 2 "\x7b\"signal\":\"sign_in\",\"name\":\"b\"\x7d",
    .text 1 "\x7b\"signal\":\"sign_in\",\"name\":\"c\"\x7d",
    .closed 2, .text 1 "\x7b\"signal\":\"sign_out\"\x7d"]

lemma parse_visits :
    Request.parse "\x7b\"signal\":\"sign_in\",\"name\":\"a\"\x7d" = .ok (.signIn "a" false) ∧
      Request.parse "\x7b\"signal\":\"sign_in\",\"name\":\"c\"\x7d" = .ok (.signIn "c" false) := by
  decide +kernel

lemma size_run_visits (s : σ) (pre : List Event) (hpre : pre <+: visits) :
    (run ice o pre .empty s).2.1.peers.size < PeerId.supply := by
  rw [run_room_empty]
  calc (after ice pre).peers.size
      ≤ pre.length := size_after_le ice pre
    _ ≤ visits.length := hpre.length_le
    _ < PeerId.supply := by decide

theorem run_peers_consistent_visits :
    let o := Exchange.outlet (Registry.empty.add .plain ⟨1, 0⟩)
    (∀ pre, pre <+: visits → (run .none o pre .empty {}).2.1.peers.size < PeerId.supply) ∧
      ((run .none o visits .empty {}).2.1.peers.roster.map Prod.fst).Pairwise (· < ·) := by
  intro o
  have h := size_run_visits .none o {}
  obtain ⟨-, -, -, hascending, -⟩ := run_peers_consistent .none o visits {} h
  exact ⟨h, hascending⟩

end Room

end Rendezvous
