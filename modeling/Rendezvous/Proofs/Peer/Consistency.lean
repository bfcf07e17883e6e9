import Rendezvous.Proofs.Peer.FreshNumber
import Std.Data.TreeMap.Lemmas

/-! Peers are found by number and by connection, and the two ways agree. Coming and going keep it
so, as long as a number is free for everyone who comes. -/

namespace Rendezvous

lemma values_eq_map_toList {κ β : Type} {cmp : κ → κ → Ordering} (m : Std.TreeMap κ β cmp) :
    m.values = m.toList.map Prod.snd := by
  have hv := Std.DTreeMap.Internal.Impl.values_eq_map_snd (t := m.inner.inner)
  have hl := Std.DTreeMap.Internal.Impl.Const.toList_eq_toListModel_map (t := m.inner.inner)
  calc m.values = m.inner.inner.toListModel.map (·.2) := hv
    _ = (m.inner.inner.toListModel.map fun x => (x.1, x.2)).map Prod.snd := by simp
    _ = m.toList.map Prod.snd := congrArg (List.map Prod.snd) hl.symm

namespace PeerTable

structure Linked (t : PeerTable) : Prop where
  keyed : ∀ {id : PeerId} {p : Peer}, t.byId[id]? = some p → p.id = id
  valid : ∀ {id : PeerId} {p : Peer}, t.byId[id]? = some p → 0 ≤ id ∧ id ≤ PeerId.greatest
  indexed : ∀ {id : PeerId} {p : Peer}, t.byId[id]? = some p →
    t.byConnection[p.connection]? = some id

structure Consistent (t : PeerTable) : Prop extends Linked t where
  seated : ∀ {v : ConnectionId} {id : PeerId}, t.byConnection[v]? = some id →
    ∃ p : Peer, t.byId[id]? = some p ∧ p.connection = v

variable {t : PeerTable} {v w : ConnectionId} {id k : PeerId} {p q : Peer} {name : String}

lemma mem_peers : p ∈ t.peers ↔ ∃ id : PeerId, t.byId[id]? = some p := by
  simp only [peers, values_eq_map_toList, List.mem_map, Prod.exists,
    Std.TreeMap.mem_toList_iff_getElem?_eq_some, exists_eq_right]

lemma length_peers : t.peers.length = t.size := by
  simp [peers, values_eq_map_toList, size]

namespace Linked

lemma mem_peers (h : t.Linked) : p ∈ t.peers ↔ t.byId[p.id]? = some p := by
  rw [PeerTable.mem_peers]
  constructor
  · rintro ⟨id, hp⟩
    rwa [h.keyed hp]
  · exact fun hp => ⟨p.id, hp⟩

lemma peers_ascending (h : t.Linked) : t.peers.Pairwise (fun a b => a.id < b.id) := by
  have hkeys := Std.TreeMap.ordered_keys_toList (t := t.byId)
  rw [peers, values_eq_map_toList, List.pairwise_map]
  refine hkeys.imp_of_mem fun {a b} ha hb hab => ?_
  rw [Std.TreeMap.mem_toList_iff_getElem?_eq_some] at ha hb
  rw [h.keyed ha, h.keyed hb]
  exact Std.compare_eq_lt.mp hab

lemma mem_roster (h : t.Linked) :
    (id, name) ∈ t.roster ↔ ∃ p : Peer, t.byId[id]? = some p ∧ p.name = name := by
  unfold roster
  rw [List.mem_map]
  constructor
  · rintro ⟨p, hp, he⟩
    obtain ⟨rfl, rfl⟩ := Prod.mk.inj he
    exact ⟨p, h.mem_peers.mp hp, rfl⟩
  · rintro ⟨p, hp, rfl⟩
    obtain rfl := h.keyed hp
    exact ⟨p, h.mem_peers.mpr hp, rfl⟩

lemma connection_injective (h : t.Linked) (hp : p ∈ t.peers) (hq : q ∈ t.peers)
    (he : p.connection = q.connection) : p = q := by
  rw [h.mem_peers] at hp hq
  have hpv := h.indexed hp
  have hqv := h.indexed hq
  rw [he, hqv] at hpv
  rw [← Option.some.inj hpv, hq] at hp
  exact (Option.some.inj hp).symm

end Linked

section Leaving

lemma signOut_fst : (t.signOut v).1 = t.peerAt? v := by
  unfold signOut peerAt?
  cases t.byConnection[v]? <;> rfl

lemma byConnection_signOut :
    (t.signOut v).2.byConnection[w]? = if v = w then none else t.byConnection[w]? := by
  unfold signOut
  cases hv : t.byConnection[v]? with
  | none =>
    by_cases he : v = w
    · simp [← he, hv]
    · simp [he]
  | some id => simp [Std.TreeMap.getElem?_erase]

lemma byId_signOut :
    (t.signOut v).2.byId[k]? = if t.byConnection[v]? = some k then none else t.byId[k]? := by
  unfold signOut
  cases hv : t.byConnection[v]? with
  | none => simp
  | some id => simp [Std.TreeMap.getElem?_erase]

lemma byId_of_signOut (hp : (t.signOut v).2.byId[k]? = some p) :
    t.byConnection[v]? ≠ some k ∧ t.byId[k]? = some p := by
  rw [byId_signOut] at hp
  split at hp
  · exact absurd hp (by simp)
  · exact ⟨‹_›, hp⟩

lemma size_signOut_le : (t.signOut v).2.size ≤ t.size := by
  unfold signOut size
  cases t.byConnection[v]? with
  | none => exact Nat.le_refl _
  | some id => exact Std.TreeMap.size_erase_le

lemma Linked.connection_ne_of_signOut (h : t.Linked) (hp : (t.signOut v).2.byId[k]? = some p) :
    p.connection ≠ v := by
  obtain ⟨hk, hq⟩ := byId_of_signOut hp
  rintro rfl
  exact hk (h.indexed hq)

lemma Linked.signOut (h : t.Linked) : (t.signOut v).2.Linked where
  keyed hp := h.keyed (byId_of_signOut hp).2
  valid hp := h.valid (byId_of_signOut hp).2
  indexed hp := by
    rw [byConnection_signOut, if_neg (h.connection_ne_of_signOut hp).symm]
    exact h.indexed (byId_of_signOut hp).2

lemma Consistent.signOut (h : t.Consistent) : (t.signOut v).2.Consistent where
  toLinked := h.toLinked.signOut
  seated {w id} hw := by
    rw [byConnection_signOut] at hw
    split at hw
    · exact absurd hw (by simp)
    · rename_i hne
      obtain ⟨p, hp, hpw⟩ := h.seated hw
      refine ⟨p, ?_, hpw⟩
      rw [byId_signOut, if_neg, hp]
      -- Otherwise `v` and `w` would both lead to `p`.
      intro hv
      obtain ⟨q, hq, hqv⟩ := h.seated hv
      obtain rfl : q = p := Option.some.inj (hq.symm.trans hp)
      exact hne (hqv.symm.trans hpw)

lemma Linked.mem_peers_signOut (h : t.Linked) :
    q ∈ (t.signOut v).2.peers ↔ q ∈ t.peers ∧ t.byConnection[v]? ≠ some q.id := by
  rw [h.signOut.mem_peers, h.mem_peers, byId_signOut]
  split
  · rename_i hv
    simp [hv]
  · rename_i hv
    simp [hv]

lemma Consistent.mem_peers_signOut (h : t.Consistent) :
    q ∈ (t.signOut v).2.peers ↔ q ∈ t.peers ∧ q.connection ≠ v := by
  rw [h.toLinked.mem_peers_signOut]
  refine and_congr_right fun hq => ?_
  have hid := h.mem_peers.mp hq
  constructor
  · rintro hv rfl
    exact hv (h.indexed hid)
  · intro hv hidx
    obtain ⟨p, hp, hpv⟩ := h.seated hidx
    obtain rfl : q = p := Option.some.inj (hid.symm.trans hp)
    exact hv hpv

end Leaving

section Coming

lemma byConnection_signIn :
    (t.signIn name v).2.byConnection[w]? =
      if v = w then some t.freshId else t.byConnection[w]? := by
  simp [signIn, takeId, Std.TreeMap.getElem?_insert]

lemma byId_signIn :
    (t.signIn name v).2.byId[k]? =
      if t.freshId = k then some ⟨t.freshId, name, v⟩ else t.byId[k]? := by
  simp [signIn, takeId, Std.TreeMap.getElem?_insert]

lemma size_signIn_le : (t.signIn name v).2.size ≤ t.size + 1 := Std.TreeMap.size_insert_le

lemma Linked.signIn (h : t.Linked)
    (hv : ∀ {k : PeerId} {p : Peer}, t.byId[k]? = some p → p.connection ≠ v) :
    (t.signIn name v).2.Linked where
  keyed {k p} hp := by
    rw [byId_signIn] at hp
    split at hp
    · rename_i he
      rw [← Option.some.inj hp, ← he]
    · exact h.keyed hp
  valid {k p} hp := by
    rw [byId_signIn] at hp
    split at hp
    · rename_i he
      exact he ▸ t.freshId_valid
    · exact h.valid hp
  indexed {k p} hp := by
    rw [byId_signIn] at hp
    rw [byConnection_signIn]
    split at hp
    · rename_i he
      rw [← Option.some.inj hp, if_pos rfl, he]
    · rw [if_neg (hv hp).symm]
      exact h.indexed hp

lemma Consistent.signIn (h : t.Consistent) (hv : t.byConnection[v]? = none)
    (hfree : t.freshId ∉ t.byId) : (t.signIn name v).2.Consistent where
  toLinked := h.toLinked.signIn fun hp he => by
    rw [← he, h.indexed hp] at hv
    exact absurd hv (by simp)
  seated {w id} hw := by
    rw [byConnection_signIn] at hw
    rw [byId_signIn]
    split at hw
    · obtain rfl := Option.some.inj hw
      exact ⟨_, if_pos rfl, ‹_›⟩
    · obtain ⟨p, hp, hpw⟩ := h.seated hw
      refine ⟨p, ?_, hpw⟩
      rw [if_neg, hp]
      rintro rfl
      exact hfree (Std.TreeMap.mem_iff_isSome_getElem?.mpr (by rw [hp]; rfl))

lemma Consistent.mem_peers_signIn (h : t.Consistent) (hv : ∀ p ∈ t.peers, p.connection ≠ v)
    (hfree : t.freshId ∉ t.byId) :
    q ∈ (t.signIn name v).2.peers ↔ q ∈ t.peers ∨ q = ⟨t.freshId, name, v⟩ := by
  have hvacant : ∀ {k : PeerId} {p : Peer}, t.byId[k]? = some p → p.connection ≠ v :=
    fun hp => hv _ (mem_peers.mpr ⟨_, hp⟩)
  have hlinked : (t.signIn name v).2.Linked := h.toLinked.signIn hvacant
  rw [hlinked.mem_peers, h.mem_peers, byId_signIn]
  split
  · rename_i he
    have hnone : t.byId[q.id]? = none := by
      rw [← he]
      exact Std.TreeMap.getElem?_eq_none hfree
    rw [hnone, Option.some.injEq, eq_comm]
    simp
  · rename_i he
    have hne : q ≠ ⟨t.freshId, name, v⟩ := by
      rintro rfl
      exact he rfl
    simp [hne]

end Coming

lemma consistent_empty : empty.Consistent where
  keyed hp := absurd hp (by simp [empty])
  valid hp := absurd hp (by simp [empty])
  indexed hp := absurd hp (by simp [empty])
  seated hv := absurd hv (by simp [empty])

end PeerTable

end Rendezvous
