import Rendezvous.Proofs.Room.Numbering

/-! An event concerns nobody but the peer of its own connection. The number that a peer gives up can
come round to it again in the same step, once all numbers have been given, but to nobody else. -/

namespace Rendezvous

namespace PeerTable

variable {t : PeerTable} {v : ConnectionId} {name : String} {m : Move} {p q : Peer}

lemma firstCandidate_signOut : (t.signOut v).2.firstCandidate = t.firstCandidate := by
  rw [firstCandidate, lastId_signOut, ← firstCandidate]

lemma exists_candidates_taken (t : PeerTable) : ∃ k, PeerId.next^[k] t.firstCandidate = t.freshId ∧
    ∀ j < k, PeerId.next^[j] t.firstCandidate ∈ t.byId := by
  obtain ⟨k, -, he, htaken, -⟩ := t.firstFree_spec t.size t.firstCandidate
  exact ⟨k, by rw [freshId_eq, he], htaken⟩

namespace Consistent

lemma vacant_signOut (h : t.Consistent) : ∀ p ∈ (t.signOut v).2.peers, p.connection ≠ v :=
  fun _ hp => (h.mem_peers_signOut.mp hp).2

lemma mem_peers_enter (h : t.Consistent) (hfree : (t.signOut v).2.HasFree) :
    q ∈ (t.move v (.enter name)).peers ↔
      q ∈ t.peers ∧ q.connection ≠ v ∨ q = ⟨(t.signOut v).2.freshId, name, v⟩ := by
  rw [← h.mem_peers_signOut]
  exact h.signOut.mem_peers_signIn h.vacant_signOut hfree.freshId_not_mem

lemma mem_peers_move_of_ne (h : t.Consistent) (hfree : m.enters → (t.signOut v).2.HasFree)
    (hq : q.connection ≠ v) : q ∈ (t.move v m).peers ↔ q ∈ t.peers := by
  cases m with
  | stay => exact Iff.rfl
  | leave =>
    have hleave : q ∈ (t.signOut v).2.peers ↔ q ∈ t.peers ∧ q.connection ≠ v := h.mem_peers_signOut
    exact hleave.trans (and_iff_left hq)
  | enter name =>
    rw [h.mem_peers_enter (hfree rfl), and_iff_left hq, or_iff_left]
    rintro rfl
    exact hq rfl

lemma connection_of_freshId (h : t.Consistent) (hfree : (t.signOut v).2.HasFree) (hp : p ∈ t.peers)
    (he : p.id = (t.signOut v).2.freshId) : p.connection = v ∧
      ∃ k, PeerId.next^[k] t.firstCandidate = p.id ∧ ∀ j < k, ∃ r ∈ t.peers,
        r.connection ≠ v ∧ r.id = PeerId.next^[j] t.firstCandidate := by
  constructor
  · by_contra hv
    have hstays : p ∈ (t.signOut v).2.peers := h.mem_peers_signOut.mpr ⟨hp, hv⟩
    have hid := h.signOut.mem_peers.mp hstays
    rw [he] at hid
    exact hfree.freshId_not_mem (Std.TreeMap.mem_iff_isSome_getElem?.mpr (by rw [hid]; rfl))
  · obtain ⟨k, hk, htaken⟩ := (t.signOut v).2.exists_candidates_taken
    rw [firstCandidate_signOut] at hk htaken
    refine ⟨k, hk.trans he.symm, fun j hj => ?_⟩
    have hsome := Std.TreeMap.mem_iff_isSome_getElem?.mp (htaken j hj)
    obtain ⟨r, hr⟩ := Option.isSome_iff_exists.mp hsome
    obtain ⟨hr', hrv⟩ := h.mem_peers_signOut.mp (mem_peers.mpr ⟨_, hr⟩)
    exact ⟨r, hr', hrv, h.signOut.keyed hr⟩

end Consistent

end PeerTable

namespace Room

variable {σ : Type} {ice : Ice} {o : Outlet σ} {s : σ} {es : List Event} {e : Event} {n : ℕ}

lemma Finishes.of_concat (h : Finishes ice (es ++ [e])) : Finishes ice es :=
  fun pre f hp => h pre f (hp.trans (List.prefix_append _ _))

lemma Finishes.last (h : Finishes ice (es ++ [e])) (he : e.move.enters) :
    ((after ice es).peers.signOut e.connection).2.HasFree :=
  h es e (List.prefix_refl _) he

lemma Finishes.concat (h : Finishes ice es)
    (he : e.move.enters → ((after ice es).peers.signOut e.connection).2.HasFree) :
    Finishes ice (es ++ [e]) := by
  intro pre f hp hf
  rcases List.prefix_concat_iff.mp hp with heq | hp
  · obtain ⟨rfl, hfe⟩ := List.append_inj' heq rfl
    obtain rfl := List.singleton_inj.mp hfe
    exact he hf
  · exact h pre f hp hf

lemma peers_act : ((after ice es).act ice o s e).1.peers =
    (after ice es).peers.move e.connection e.move := peers_step ice _ e

theorem act_isolated (h : Finishes ice (es ++ [e])) :
    let before := (after ice es).peers
    let later := ((after ice es).act ice o s e).1.peers
    (∀ q : Peer, q.connection ≠ e.connection → (q ∈ later.peers ↔ q ∈ before.peers)) ∧
    (e.move = .leave → ∀ q ∈ later.peers, q.connection ≠ e.connection) ∧
    (∀ name, e.move = .enter name → ∃ q ∈ later.peers, q.connection = e.connection ∧ q.name = name ∧
      (∀ r ∈ later.peers, r.connection = e.connection → r = q) ∧
      (∀ p ∈ before.peers, p.id = q.id → signIns es ≥ PeerId.supply ∧ p.connection = e.connection ∧
        ∃ k, PeerId.next^[k] before.firstCandidate = p.id ∧ ∀ j < k, ∃ r ∈ before.peers,
          r.connection ≠ e.connection ∧ r.id = PeerId.next^[j] before.firstCandidate)) ∧
    (e.move = .stay → later = before) := by
  intro before later
  have hbefore : before.Consistent := h.of_concat.consistent
  have hlater : later = before.move e.connection e.move := peers_act
  refine ⟨fun q hq => ?_, fun hm => ?_, fun name hm => ?_, fun hm => ?_⟩
  · rw [hlater]
    exact hbefore.mem_peers_move_of_ne h.last hq
  · rw [hlater, hm]
    exact hbefore.vacant_signOut
  · have hfree : (before.signOut e.connection).2.HasFree := h.last (by rw [hm]; rfl)
    let newcomer : Peer := ⟨(before.signOut e.connection).2.freshId, name, e.connection⟩
    have hmem (r : Peer) : r ∈ later.peers ↔
        r ∈ before.peers ∧ r.connection ≠ e.connection ∨ r = newcomer := by
      rw [hlater, hm]
      exact hbefore.mem_peers_enter hfree
    refine ⟨newcomer, (hmem newcomer).mpr (Or.inr rfl), rfl, rfl, fun r hr hrv => ?_,
      fun p hp he => ⟨?_, ?_⟩⟩
    · exact ((hmem r).mp hr).resolve_left fun hr' => hr'.2 hrv
    · -- Until the supply is used up, a new number is greater than all that were given before.
      by_contra hlt
      have hn : signIns es < PeerId.supply := Nat.lt_of_not_le hlt
      have hcounted : before.Counted (signIns es) := counted_after (Nat.le_of_lt hn)
      have hbelow := hcounted.below (hbefore.mem_peers.mp hp)
      rw [he] at hbelow
      change (before.signOut e.connection).2.freshId < _ at hbelow
      rw [hcounted.signOut.freshId_eq hn] at hbelow
      exact Int.lt_irrefl _ hbelow
    · exact hbefore.connection_of_freshId hfree hp he
  · rw [hlater, hm]
    rfl

theorem act_isolated_visits :
    let o := Exchange.outlet (Registry.empty.add .plain ⟨1, 0⟩)
    let again : Event := .text 1 "\x7b\"signal\":\"sign_in\",\"name\":\"c\"\x7d"
    let later := ((after .none (visits.take 2)).act .none o {} again).1.peers
    Finishes .none (visits.take 2 ++ [again]) ∧
      (∀ q : Peer, q.connection ≠ 1 →
        (q ∈ later.peers ↔ q ∈ (after .none (visits.take 2)).peers.peers)) ∧
      ∃ q ∈ later.peers, q.connection = 1 ∧ q.name = "c" := by
  intro o again later
  have hcount : signIns (visits.take 2 ++ [again]) ≤ PeerId.supply :=
    Nat.le_trans List.countP_le_length (by decide)
  have hfinishes : Finishes .none (visits.take 2 ++ [again]) := finishes_of_signIns_le hcount
  have hmove : again.move = .enter "c" := by simp only [again, Event.move, parse_visits.2]
  have h := act_isolated (o := o) (s := {}) hfinishes
  obtain ⟨q, hq, hv, hname, -⟩ := h.2.2.1 "c" hmove
  exact ⟨hfinishes, h.1, q, hq, hv, hname⟩

def arrival (v : ConnectionId) : Event := .text v "\x7b\"signal\":\"sign_in\",\"name\":\"a\"\x7d"

lemma move_arrival (v : ConnectionId) : (arrival v).move = .enter "a" := by
  simp only [arrival, Event.move, parse_visits.1]

def arrivals (n : ℕ) : List Event := arrival 1 :: List.replicate n (arrival 2)

lemma arrivals_zero : arrivals 0 = [] ++ [arrival 1] := rfl

lemma arrivals_succ : arrivals (n + 1) = arrivals n ++ [arrival 2] := by
  rw [arrivals, List.replicate_succ', arrivals, List.cons_append]

lemma signIns_arrivals : signIns (arrivals n) = n + 1 := by
  induction n with
  | zero => simp [arrivals, signIns, move_arrival, Move.enters]
  | succ n ih =>
    rw [arrivals_succ, signIns_concat, ih, move_arrival]
    rfl

lemma first_mem_arrivals (h : n < PeerId.supply) :
    (⟨0, "a", 1⟩ : Peer) ∈ (after ice (arrivals n)).peers.peers := by
  induction n with
  | zero =>
    have hfresh : (PeerTable.empty.signOut 1).2.freshId = 0 :=
      PeerTable.Counted.empty.signOut.freshId_eq (by decide)
    have hcount : signIns (arrivals 0) ≤ PeerId.supply := by
      rw [signIns_arrivals]
      exact h
    rw [arrivals_zero] at hcount ⊢
    have hfinishes : Finishes ice ([] ++ [arrival 1]) := finishes_of_signIns_le hcount
    rw [after_concat, peers_step, move_arrival]
    refine (hfinishes.of_concat.consistent.mem_peers_enter (hfinishes.last ?_)).mpr (Or.inr ?_)
    · rw [move_arrival]
      rfl
    · exact congrArg (Peer.mk · "a" 1) hfresh.symm
  | succ n ih =>
    have hcount : signIns (arrivals n ++ [arrival 2]) ≤ PeerId.supply := by
      rw [← arrivals_succ, signIns_arrivals]
      exact h
    have hfinishes : Finishes ice (arrivals n ++ [arrival 2]) := finishes_of_signIns_le hcount
    rw [arrivals_succ, after_concat, peers_step]
    have hbefore : (after ice (arrivals n)).peers.Consistent := hfinishes.of_concat.consistent
    refine (hbefore.mem_peers_move_of_ne hfinishes.last ?_).mpr (ih (by omega))
    decide

lemma first_rejoins (ice : Ice) (hn : n + 1 = PeerId.supply) :
    ((after ice (arrivals n)).peers.signOut 1).2.HasFree ∧
      ((after ice (arrivals n)).peers.signOut 1).2.freshId = 0 := by
  let t := ((after ice (arrivals n)).peers.signOut 1).2
  have hcount : signIns (arrivals n) = PeerId.supply := signIns_arrivals.trans hn
  have hcounted : (after ice (arrivals n)).peers.Counted (signIns (arrivals n)) :=
    counted_after (Nat.le_of_eq hcount)
  have hround : t.firstCandidate = 0 := by
    rw [PeerTable.firstCandidate_eq_next, hcounted.signOut.last, hcount]
    rfl
  have hmem : (⟨0, "a", 1⟩ : Peer) ∈ (after ice (arrivals n)).peers.peers :=
    first_mem_arrivals (by omega)
  have hlinked : (after ice (arrivals n)).peers.Linked := linked_after ice (arrivals n)
  have hfree : (0 : PeerId) ∉ t.byId := by
    have hseat : (after ice (arrivals n)).peers.byConnection[1]? = some 0 :=
      hlinked.indexed (hlinked.mem_peers.mp hmem)
    rw [Std.TreeMap.mem_iff_isSome_getElem?, PeerTable.byId_signOut, if_pos hseat]
    exact Bool.false_ne_true
  refine ⟨⟨0, by rwa [Function.iterate_zero, id_eq, hround]⟩, ?_⟩
  rw [PeerTable.freshId_eq, hround]
  exact PeerTable.firstFree_of_not_mem hfree

theorem number_comes_round :
    Finishes .none (arrivals (PeerId.supply - 1) ++ [arrival 1]) ∧ (arrival 1).move = .enter "a" ∧
    ⟨0, "a", 1⟩ ∈ (after .none (arrivals (PeerId.supply - 1))).peers.peers ∧
    ⟨0, "a", 1⟩ ∈ (after .none (arrivals (PeerId.supply - 1) ++ [arrival 1])).peers.peers ∧
    (after .none [arrival 1, .text 1 "\x7b\"signal\":\"sign_out\",\"id\":-1\x7d"]).peers.roster =
      [(0, "a")] := by
  have hn : PeerId.supply - 1 + 1 = PeerId.supply := Nat.sub_add_cancel (by decide)
  generalize PeerId.supply - 1 = n at hn
  have hcount : signIns (arrivals n) ≤ PeerId.supply := Nat.le_of_eq (signIns_arrivals.trans hn)
  have hfinishes : Finishes .none (arrivals n) := finishes_of_signIns_le hcount
  obtain ⟨hfree, hfresh⟩ := first_rejoins .none hn
  refine ⟨hfinishes.concat fun _ => hfree, move_arrival 1, first_mem_arrivals (by omega), ?_,
    by decide +kernel⟩
  rw [after_concat, peers_step, move_arrival]
  exact (hfinishes.consistent.mem_peers_enter hfree).mpr
    (Or.inr (congrArg (Peer.mk · "a" 1) hfresh.symm))

end Room

end Rendezvous
