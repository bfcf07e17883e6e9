import Rendezvous.Proofs.Room.Delivery
import Rendezvous.Proofs.Room.Members

namespace Rendezvous

namespace PeerTable

structure Counted (t : PeerTable) (n : ℕ) : Prop where
  last : t.lastId.getD (-1) = (n : PeerId) - 1
  below : ∀ {id : PeerId} {p : Peer}, t.byId[id]? = some p → id < n

variable {t : PeerTable} {n : ℕ} {v : ConnectionId} {name : String} {m : Move} {k : PeerId}
  {q : Peer}

lemma firstCandidate_eq_next : t.firstCandidate = (t.lastId.getD (-1)).next := by
  unfold firstCandidate
  cases t.lastId <;> rfl

lemma firstFree_of_not_mem {tries : ℕ} (h : k ∉ t.byId) : t.firstFree tries k = k := by
  cases tries with
  | zero => rfl
  | succ tries => simp [firstFree, h]

lemma lastId_signOut : (t.signOut v).2.lastId = t.lastId := by
  unfold signOut
  cases t.byConnection[v]? <;> rfl

namespace Counted

lemma not_mem (h : t.Counted n) : (n : PeerId) ∉ t.byId := by
  intro hmem
  obtain ⟨p, hp⟩ := Option.isSome_iff_exists.mp (Std.TreeMap.mem_iff_isSome_getElem?.mp hmem)
  have hlt := h.below hp
  simp only [PeerId] at hlt
  omega

lemma firstCandidate_eq (h : t.Counted n) (hn : n < PeerId.supply) : t.firstCandidate = n := by
  have hrange : -1 ≤ (n : PeerId) - 1 ∧ (n : PeerId) - 1 < PeerId.greatest := by
    simp only [PeerId.greatest, PeerId.supply, PeerId] at *
    omega
  rw [firstCandidate_eq_next, h.last, PeerId.next, if_pos hrange]
  simp only [PeerId]
  omega

lemma freshId_eq (h : t.Counted n) (hn : n < PeerId.supply) : t.freshId = n := by
  rw [PeerTable.freshId_eq, h.firstCandidate_eq hn]
  exact firstFree_of_not_mem h.not_mem

lemma hasFree (h : t.Counted n) (hn : n < PeerId.supply) : t.HasFree :=
  ⟨0, by simpa only [Function.iterate_zero, id_eq, h.firstCandidate_eq hn] using h.not_mem⟩

lemma empty : PeerTable.empty.Counted 0 where
  last := rfl
  below hp := absurd hp (by simp [PeerTable.empty])

lemma signOut (h : t.Counted n) : (t.signOut v).2.Counted n where
  last := by rw [lastId_signOut, h.last]
  below hp := h.below (byId_of_signOut hp).2

lemma signIn (h : t.Counted n) (hn : n < PeerId.supply) : (t.signIn name v).2.Counted (n + 1) where
  last := by
    change t.freshId = _
    rw [h.freshId_eq hn]
    simp only [PeerId]
    omega
  below {id p} hp := by
    have hid : id ≤ n := by
      rw [byId_signIn, h.freshId_eq hn] at hp
      split at hp
      · rename_i he
        exact Int.le_of_eq he.symm
      · exact Int.le_of_lt (h.below hp)
    simp only [PeerId] at *
    omega

lemma move (h : t.Counted n) (hn : m.enters → n < PeerId.supply) :
    (t.move v m).Counted (n + if m.enters then 1 else 0) := by
  cases m with
  | stay => exact h
  | leave => exact h.signOut
  | enter name => exact h.signOut.signIn (hn rfl)

lemma byId_of_move (h : t.Counted n) (hn : m.enters → n < PeerId.supply) (hk : k < n)
    (hq : (t.move v m).byId[k]? = some q) : t.byId[k]? = some q := by
  cases m with
  | stay => exact hq
  | leave => exact (byId_of_signOut hq).2
  | enter name =>
    have hne : (t.signOut v).2.freshId ≠ k := by
      rw [h.signOut.freshId_eq (hn rfl)]
      exact (Int.ne_of_lt hk).symm
    change ((t.signOut v).2.signIn name v).2.byId[k]? = some q at hq
    rw [byId_signIn, if_neg hne] at hq
    exact (byId_of_signOut hq).2

end Counted

end PeerTable

namespace Room

variable {σ : Type} {ice : Ice} {o : Outlet σ} {s : σ} {es pre mid : List Event} {e : Event}
  {k : PeerId} {q : Peer}

def signIns (es : List Event) : ℕ := es.countP fun e => e.move.enters

lemma signIns_concat : signIns (es ++ [e]) = signIns es + if e.move.enters then 1 else 0 := by
  rw [signIns, List.countP_append, List.countP_singleton]
  rfl

lemma signIns_le_append : signIns pre ≤ signIns (pre ++ mid) := by
  rw [signIns, signIns, List.countP_append]
  exact Nat.le_add_right _ _

lemma signIns_lt_of_enters (h : signIns (es ++ [e]) ≤ PeerId.supply) (he : e.move.enters) :
    signIns es < PeerId.supply := by
  rw [signIns_concat, if_pos he] at h
  exact h

lemma counted_after (h : signIns es ≤ PeerId.supply) :
    (after ice es).peers.Counted (signIns es) := by
  induction es using List.reverseRecOn with
  | nil => exact PeerTable.Counted.empty
  | append_singleton es e ih =>
    rw [after_concat, peers_step, signIns_concat]
    exact (ih (Nat.le_trans signIns_le_append h)).move (signIns_lt_of_enters h)

lemma finishes_of_signIns_le (h : signIns es ≤ PeerId.supply) : Finishes ice es := by
  rintro pre e ⟨rest, rfl⟩ he
  have hpre : signIns (pre ++ [e]) ≤ PeerId.supply := Nat.le_trans signIns_le_append h
  have hcounted : (after ice pre).peers.Counted (signIns pre) :=
    counted_after (Nat.le_trans signIns_le_append hpre)
  exact hcounted.signOut.hasFree (signIns_lt_of_enters hpre he)

lemma byId_of_after_append (h : signIns (pre ++ mid) ≤ PeerId.supply) (hk : k < signIns pre)
    (hq : (after ice (pre ++ mid)).peers.byId[k]? = some q) :
    (after ice pre).peers.byId[k]? = some q := by
  induction mid using List.reverseRecOn with
  | nil => rwa [List.append_nil] at hq
  | append_singleton mid e ih =>
    rw [← List.append_assoc] at h hq
    have hmid : signIns (pre ++ mid) ≤ PeerId.supply := Nat.le_trans signIns_le_append h
    have hk' : k < signIns (pre ++ mid) :=
      Int.lt_of_lt_of_le hk (Int.ofNat_le.mpr signIns_le_append)
    rw [after_concat, peers_step] at hq
    exact ih hmid ((counted_after hmid).byId_of_move (signIns_lt_of_enters h) hk' hq)

def greeting (ice : Ice) (room : Room) (v : ConnectionId) (name : String) (unlisted : Bool) : Reply :=
  let t := (room.peers.signOut v).2
  .signedIn t.freshId name (t.hasName name) ice
    (if unlisted then none else some (t.signIn name v).2.roster)

lemma outbox_signIn (ice : Ice) (room : Room) (v : ConnectionId) {document name : String}
    {unlisted : Bool} (h : Request.parse document = .ok (.signIn name unlisted)) :
    (room.step ice (.text v document)).outbox.letters =
      [(v, .reply (room.greeting ice v name unlisted))] ∧
    (room.step ice (.text v document)).outbox.notices = (room.replace v).outbox.notices := by
  simp only [step, receive, h, answer, greeting, ← peers_replace]
  exact ⟨rfl, rfl⟩

lemma act_greets (ice : Ice) (o : Outlet σ) (room : Room) (s : σ) (v : ConnectionId)
    {document name : String} {unlisted : Bool}
    (h : Request.parse document = .ok (.signIn name unlisted)) : ∃ taken rest,
    (room.act ice o s (.text v document)).2.1 =
      ⟨v, .reply (room.greeting ice v name unlisted), taken⟩ :: rest ∧
    ∀ m ∈ rest, ∃ n ∈ (room.replace v).outbox.notices, m.address = n.address := by
  obtain ⟨hletters, hnotices⟩ := outbox_signIn ice room v h
  obtain ⟨taken, t, hsent⟩ := act_letter hletters o s
  rw [hnotices] at hsent
  exact ⟨taken, _, hsent, fun m hm => Outlet.mem_postNotices hm⟩

lemma act_signIn (ice : Ice) (o : Outlet σ) (room : Room) (s : σ) (v : ConnectionId)
    {document name : String} {unlisted : Bool}
    (h : Request.parse document = .ok (.signIn name unlisted)) : ∃ again roster taken rest,
    (room.act ice o s (.text v document)).2.1 =
      ⟨v, .reply (.signedIn (room.peers.signOut v).2.freshId name again ice roster), taken⟩ :: rest ∧
    ∀ m ∈ rest, ∃ x, m.letter = .reply (.departed x) := by
  obtain ⟨taken, rest, hsent, hrest⟩ := act_greets ice o room s v h
  refine ⟨_, _, taken, rest, hsent, fun m hm => ?_⟩
  obtain ⟨n, -, ha⟩ := hrest m hm
  exact ⟨n.departed, congrArg Prod.snd ha⟩

theorem numbers_given_in_turn (ice : Ice) (o : Outlet σ) (es : List Event)
    (h : signIns es ≤ PeerId.supply) :
    (∀ pre v document post name unlisted, es = pre ++ .text v document :: post →
      Request.parse document = .ok (.signIn name unlisted) → ∀ s : σ, ∃ again roster taken rest,
        ((after ice pre).act ice o s (.text v document)).2.1 =
          ⟨v, .reply (.signedIn (signIns pre) name again ice roster), taken⟩ :: rest ∧
        ∀ m ∈ rest, ∃ x, m.letter = .reply (.departed x)) ∧
    ∀ pre mid post, es = pre ++ mid ++ post → ∀ q ∈ (after ice (pre ++ mid)).peers.peers,
      q.id < signIns pre → q ∈ (after ice pre).peers.peers := by
  constructor
  · intro pre v document post name unlisted hes hparse s
    have henters : (Event.text v document).move.enters := by
      simp only [Event.move, hparse, Move.enters]
    have hpre : signIns (pre ++ [.text v document]) ≤ PeerId.supply := by
      rw [hes, List.append_cons] at h
      exact Nat.le_trans signIns_le_append h
    have hcounted : (after ice pre).peers.Counted (signIns pre) :=
      counted_after (Nat.le_trans signIns_le_append hpre)
    have hanswer := act_signIn ice o (after ice pre) s v hparse
    rwa [hcounted.signOut.freshId_eq (signIns_lt_of_enters hpre henters)] at hanswer
  · intro pre mid post hes q hq hold
    have hmid : signIns (pre ++ mid) ≤ PeerId.supply := by
      rw [hes] at h
      exact Nat.le_trans signIns_le_append h
    have hid := (linked_after ice (pre ++ mid)).mem_peers.mp hq
    exact (linked_after ice pre).mem_peers.mpr (byId_of_after_append hmid hold hid)

theorem numbers_given_in_turn_visits :
    let o := Exchange.outlet (Registry.empty.add .plain ⟨1, 0⟩)
    signIns visits ≤ PeerId.supply ∧
      (∃ again roster taken rest, ((after .none (visits.take 2)).act .none o {}
        (.text 1 "\x7b\"signal\":\"sign_in\",\"name\":\"c\"\x7d")).2.1 =
          ⟨1, .reply (.signedIn 2 "c" again .none roster), taken⟩ :: rest) ∧
      ∀ q ∈ (after .none visits).peers.peers, q.id < 2 →
        q ∈ (after .none (visits.take 2)).peers.peers := by
  intro o
  have hcount : signIns visits ≤ PeerId.supply := Nat.le_trans List.countP_le_length (by decide)
  have htwo : signIns (visits.take 2) = 2 := by decide +kernel
  have h := numbers_given_in_turn .none o visits hcount
  obtain ⟨again, roster, taken, rest, hsent, -⟩ :=
    h.1 (visits.take 2) 1 _ _ _ _ rfl parse_visits.2 {}
  rw [htwo] at hsent
  refine ⟨hcount, ⟨again, roster, taken, rest, hsent⟩, fun q hq hlt => ?_⟩
  have hvisits : visits = visits.take 2 ++ visits.drop 2 ++ [] := by simp
  exact h.2 _ _ _ hvisits q (by rwa [List.take_append_drop]) (by rwa [htwo])

end Room

end Rendezvous
