import Mathlib.Data.List.Basic
import Mathlib.Data.Nat.Find
import Rendezvous.Proofs.Pairing

/-! Pairings that are added and ended in any order. One stands from the first time it is added until
one of its numbers parts, and partners come in the order in which they were first added since. -/

namespace Rendezvous.PairTable

inductive Change where
  | add (caller callee : PeerId)
  | part (id : PeerId)
deriving DecidableEq, Repr

def change (t : PairTable) : Change → PairTable
  | .add caller callee => t.add caller callee
  | .part id => t.without id

def after (cs : List Change) : PairTable := cs.foldl change empty

/-- The change at place `n` adds the pairing, and no later one parts a number of it. -/
structure AddedAt (cs : List Change) (n : Nat) (p : Pairing) : Prop where
  added : cs[n]? = some (.add p.caller p.callee)
  stands : ∀ m z, n < m → cs[m]? = some (.part z) → p.mentions z = false

structure JoinedAt (cs : List Change) (n : Nat) (x y : PeerId) : Prop where
  joined : cs[n]? = some (.add x y) ∨ cs[n]? = some (.add y x)
  stands : ∀ m, n < m → cs[m]? ≠ some (.part x) ∧ cs[m]? ≠ some (.part y)

def Precedes (cs : List Change) (p q : Pairing) : Prop :=
  ∀ m, AddedAt cs m q → ∃ n < m, AddedAt cs n p

variable {t : PairTable} {cs : List Change} {c : Change} {n : Nat} {p q : Pairing} {x y z : PeerId}

lemma after_concat : after (cs ++ [c]) = (after cs).change c := by
  simp [after]

lemma getElem?_concat_eq_some {d : Change} :
    (cs ++ [c])[n]? = some d ↔ cs[n]? = some d ∨ n = cs.length ∧ c = d := by
  rcases Nat.lt_trichotomy n cs.length with h | rfl | h
  · rw [List.getElem?_append_left h]
    exact ⟨Or.inl, fun hd => hd.resolve_right fun he => Nat.ne_of_lt h he.1⟩
  · simp
  · rw [List.getElem?_eq_none (by simpa using Nat.succ_le_of_lt h), List.getElem?_eq_none (Nat.le_of_lt h)]
    simp [Nat.ne_of_gt h]

lemma AddedAt.lt_length (h : AddedAt cs n p) : n < cs.length :=
  (List.getElem?_eq_some_iff.mp h.added).1

lemma addedAt_concat : AddedAt (cs ++ [c]) n p ↔ n = cs.length ∧ c = .add p.caller p.callee ∨
    AddedAt cs n p ∧ ∀ z, c = .part z → p.mentions z = false := by
  constructor
  · rintro ⟨hadd, hstands⟩
    rcases getElem?_concat_eq_some.mp hadd with hadd | hlast
    · have hn : n < cs.length := (List.getElem?_eq_some_iff.mp hadd).1
      refine Or.inr ⟨⟨hadd, fun m z hm hz => ?_⟩, fun z hz => ?_⟩
      · exact hstands m z hm (getElem?_concat_eq_some.mpr (Or.inl hz))
      · exact hstands cs.length z hn (getElem?_concat_eq_some.mpr (Or.inr ⟨rfl, hz⟩))
    · exact Or.inl hlast
  · rintro (⟨rfl, hc⟩ | ⟨h, hlast⟩)
    · refine ⟨getElem?_concat_eq_some.mpr (Or.inr ⟨rfl, hc⟩), fun m z hm hz => ?_⟩
      have hm' := (List.getElem?_eq_some_iff.mp hz).1
      rw [List.length_append, List.length_singleton] at hm'
      omega
    · refine ⟨getElem?_concat_eq_some.mpr (Or.inl h.added), fun m z hm hz => ?_⟩
      rcases getElem?_concat_eq_some.mp hz with hz | ⟨-, hz⟩
      · exact h.stands m z hm hz
      · exact hlast z hz

lemma mem_change : p ∈ (t.change c).pairs ↔
    c = .add p.caller p.callee ∨ p ∈ t.pairs ∧ ∀ z, c = .part z → p.mentions z = false := by
  cases c with
  | add a b =>
    obtain ⟨caller, callee⟩ := p
    rw [change, mem_add, or_comm, eq_comm, Change.add.injEq, Pairing.mk.injEq]
    simp
  | part z =>
    rw [change, mem_without]
    simp

lemma mem_after : p ∈ (after cs).pairs ↔ ∃ n, AddedAt cs n p := by
  induction cs using List.reverseRecOn with
  | nil =>
    refine iff_of_false List.not_mem_nil ?_
    rintro ⟨n, h⟩
    exact Nat.not_lt_zero n h.lt_length
  | append_singleton cs c ih =>
    rw [after_concat, mem_change, ih]
    simp only [addedAt_concat, exists_or, exists_and_right, exists_eq, true_and]

lemma nodup_after : (after cs).pairs.Nodup := by
  induction cs using List.reverseRecOn with
  | nil => exact List.Pairwise.nil
  | append_singleton cs c ih =>
    rw [after_concat]
    cases c with
    | add a b =>
      rw [change, add]
      split
      · exact ih
      · rename_i hnew
        refine List.nodup_append.mpr ⟨ih, List.pairwise_singleton _ _, fun p hp q hq he => ?_⟩
        rw [he, List.mem_singleton.mp hq] at hp
        exact hnew hp
    | part z => exact ih.filter _

section Order

lemma Precedes.concat (h : Precedes cs p q) (hp : ∃ n, AddedAt cs n p)
    (hlast : ∀ z, c = .part z → p.mentions z = false) : Precedes (cs ++ [c]) p q := by
  intro m hm
  rcases addedAt_concat.mp hm with ⟨rfl, -⟩ | ⟨hm, -⟩
  · obtain ⟨n, hn⟩ := hp
    exact ⟨n, hn.lt_length, addedAt_concat.mpr (Or.inr ⟨hn, hlast⟩)⟩
  · obtain ⟨n, hlt, hn⟩ := h m hm
    exact ⟨n, hlt, addedAt_concat.mpr (Or.inr ⟨hn, hlast⟩)⟩

lemma precedes_after : (after cs).pairs.Pairwise (Precedes cs) := by
  induction cs using List.reverseRecOn with
  | nil => exact List.Pairwise.nil
  | append_singleton cs c ih =>
    rw [after_concat]
    cases c with
    | add a b =>
      have hstands (p : Pairing) (z : PeerId) : Change.add a b = .part z → p.mentions z = false :=
        fun h => absurd h (by simp)
      have hold : (after cs).pairs.Pairwise (Precedes (cs ++ [.add a b])) := by
        refine ih.imp_of_mem fun {p q} hp _ h => ?_
        exact h.concat (mem_after.mp hp) (hstands p)
      rw [change, add]
      split
      · exact hold
      · rename_i hnew
        refine List.pairwise_append.mpr ⟨hold, List.pairwise_singleton _ _, fun p hp q hq => ?_⟩
        obtain rfl := List.mem_singleton.mp hq
        have hfresh : Precedes cs p ⟨a, b⟩ := fun m hm => absurd (mem_after.mpr ⟨m, hm⟩) hnew
        exact hfresh.concat (mem_after.mp hp) (hstands p)
    | part z =>
      refine (ih.filter _).imp_of_mem fun {p q} hp _ h => ?_
      obtain ⟨hp, hz⟩ := mem_without.mp hp
      refine h.concat (mem_after.mp hp) fun w hw => ?_
      obtain rfl := Change.part.inj hw
      exact hz

end Order

section Partners

lemma joinedAt_iff : JoinedAt cs n x y ↔ ∃ p : Pairing, p.joins x y ∧ AddedAt cs n p := by
  constructor
  · rintro ⟨hjoined, hstands⟩
    have hspared {p : Pairing} (hp : p.joins x y) :
        ∀ m z, n < m → cs[m]? = some (.part z) → p.mentions z = false := by
      intro m z hm hz
      refine Bool.eq_false_iff.mpr fun hmentions => ?_
      rcases (Pairing.mentions_of_joins hp).mp hmentions with rfl | rfl
      · exact (hstands m hm).1 hz
      · exact (hstands m hm).2 hz
    rcases hjoined with hadd | hadd
    · have hp : (⟨x, y⟩ : Pairing).joins x y := Pairing.joins_iff.mpr (Or.inl rfl)
      exact ⟨_, hp, hadd, hspared hp⟩
    · have hp : (⟨y, x⟩ : Pairing).joins x y := Pairing.joins_iff.mpr (Or.inr rfl)
      exact ⟨_, hp, hadd, hspared hp⟩
  · rintro ⟨p, hp, hadd, hstands⟩
    refine ⟨?_, fun m hm => ⟨fun hx => ?_, fun hy => ?_⟩⟩
    · rcases Pairing.joins_iff.mp hp with rfl | rfl
      · exact Or.inl hadd
      · exact Or.inr hadd
    · have hspared := hstands m x hm hx
      rw [(Pairing.mentions_of_joins hp).mpr (Or.inl rfl)] at hspared
      exact absurd hspared (by simp)
    · have hspared := hstands m y hm hy
      rw [(Pairing.mentions_of_joins hp).mpr (Or.inr rfl)] at hspared
      exact absurd hspared (by simp)

lemma joins_after : (after cs).Joins x y ↔ ∃ n, JoinedAt cs n x y := by
  simp only [Joins, mem_after, joinedAt_iff]
  constructor
  · rintro ⟨p, ⟨n, hn⟩, hp⟩
    exact ⟨n, p, hp, hn⟩
  · rintro ⟨n, p, hp, hn⟩
    exact ⟨p, ⟨n, hn⟩, hp⟩

lemma exists_joinedAt_lt (h : (after cs).firstIndex x y < (after cs).firstIndex x z)
    (hz : JoinedAt cs n x z) : ∃ m < n, JoinedAt cs m x y := by
  obtain ⟨q, hq, hn⟩ := joinedAt_iff.mp hz
  obtain ⟨j, hj, rfl⟩ := List.mem_iff_getElem.mp (mem_after.mpr ⟨n, hn⟩)
  have hle : (after cs).firstIndex x z ≤ j := by
    by_contra hlt
    have hfalse := List.not_of_lt_findIdx (Nat.lt_of_not_le hlt)
    rw [hq] at hfalse
    exact absurd hfalse (by simp)
  have hij : (after cs).firstIndex x y < j := Nat.lt_of_lt_of_le h hle
  have hi : (after cs).firstIndex x y < (after cs).pairs.length := Nat.lt_trans hij hj
  have hp : (after cs).pairs[(after cs).firstIndex x y].joins x y :=
    List.findIdx_getElem (w := hi)
  obtain ⟨m, hm, hadded⟩ := List.pairwise_iff_getElem.mp precedes_after _ _ hi hj hij n hn
  exact ⟨m, hm, joinedAt_iff.mpr ⟨_, hp, hadded⟩⟩

lemma without_comm : (t.without x).without y = (t.without y).without x :=
  congrArg PairTable.mk (List.filter_comm _ _ _)

theorem counterparts_of_history (cs : List Change) (x : PeerId) :
    let t := after cs
    t.pairs.Nodup ∧
    (∀ y, y ∈ t.counterparts x ↔ y ≠ x ∧ ∃ n, JoinedAt cs n x y) ∧
    (t.counterparts x).Nodup ∧
    (t.counterparts x).Pairwise (fun y z => ∃ n, JoinedAt cs n x y ∧ ∀ m, JoinedAt cs m x z → n < m) ∧
    (t.without x).pairs = t.pairs.filter (fun p => p.caller ≠ x ∧ p.callee ≠ x) ∧
    ∀ y, (t.without x).without y = (t.without y).without x := by
  intro t
  refine ⟨nodup_after, fun y => ?_, nodup_counterparts, ?_, ?_, fun y => without_comm⟩
  · rw [mem_counterparts, joins_after]
  · refine counterparts_ascending.imp_of_mem fun {y z} _ hz hlt => ?_
    have hjoined : ∃ n, JoinedAt cs n x z := joins_after.mp (mem_counterparts.mp hz).2
    -- The earliest pairing with `z` is later than one with `y`.
    classical
    obtain ⟨n, hn, hy⟩ := exists_joinedAt_lt hlt (Nat.find_spec hjoined)
    exact ⟨n, hy, fun m hm => Nat.lt_of_lt_of_le hn (Nat.find_min' hjoined hm)⟩
  · refine List.filter_congr fun p _ => ?_
    simp [Pairing.mentions, Bool.beq_eq_decide_eq]

example : (after [.add 1 0, .add 0 2, .part 1, .add 2 0, .add 1 0, .add 3 4, .add 0 0]).counterparts 0 =
    [2, 1] := by decide

end Partners

end Rendezvous.PairTable
