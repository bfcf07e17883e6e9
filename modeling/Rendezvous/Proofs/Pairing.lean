import Mathlib.Data.List.Induction
import Mathlib.Tactic.Lemma
import Rendezvous.Pairing

namespace Rendezvous

namespace Pairing

def joins (p : Pairing) (x y : PeerId) : Bool := p = ⟨x, y⟩ || p = ⟨y, x⟩

variable {p : Pairing} {x y c : PeerId}

lemma joins_iff : p.joins x y ↔ p = ⟨x, y⟩ ∨ p = ⟨y, x⟩ := by
  simp [joins]

lemma mentions_iff : p.mentions x ↔ p.caller = x ∨ p.callee = x := by
  simp [mentions]

lemma mentions_of_joins {z : PeerId} (h : p.joins x y) : p.mentions z ↔ z = x ∨ z = y := by
  rw [mentions_iff]
  rcases joins_iff.mp h with rfl | rfl
  · exact or_congr eq_comm eq_comm
  · exact or_comm.trans (or_congr eq_comm eq_comm)

def partner? (p : Pairing) (x : PeerId) : Option PeerId := (p.counterpart? x).filter (· ≠ x)

lemma partner?_eq_some : p.partner? x = some c ↔ c ≠ x ∧ p.joins x c := by
  obtain ⟨a, b⟩ := p
  rw [joins_iff]
  simp only [partner?, counterpart?, Pairing.mk.injEq]
  by_cases ha : a = x
  · subst ha
    rw [if_pos rfl]
    by_cases hb : b = a <;> grind
  · rw [if_neg ha]
    by_cases hb : b = x <;> grind

end Pairing

namespace PairTable

def Joins (t : PairTable) (x y : PeerId) : Prop := ∃ p ∈ t.pairs, p.joins x y

variable {t : PairTable} {x y z a b c : PeerId}

lemma mem_add {p : Pairing} : p ∈ (t.add a b).pairs ↔ p ∈ t.pairs ∨ p = ⟨a, b⟩ := by
  unfold add
  split
  · rename_i h
    exact ⟨Or.inl, fun hp => hp.elim id fun he => he ▸ h⟩
  · simp

lemma mem_without {p : Pairing} : p ∈ (t.without z).pairs ↔ p ∈ t.pairs ∧ p.mentions z = false := by
  simp [without]

section Partners

lemma distinct_concat (ids : List PeerId) :
    distinct (ids ++ [c]) = if c ∈ distinct ids then distinct ids else distinct ids ++ [c] := by
  unfold distinct
  rw [List.foldl_append, List.foldl_cons, List.foldl_nil]
  simp only [List.mem_reverse]
  split
  · rfl
  · rw [List.reverse_cons]

lemma mem_distinct {ids : List PeerId} : c ∈ distinct ids ↔ c ∈ ids := by
  induction ids using List.reverseRecOn with
  | nil => exact Iff.rfl
  | append_singleton ids a ih =>
    rw [distinct_concat, List.mem_append, List.mem_singleton, ← ih]
    split
    · rename_i h
      exact ⟨Or.inl, fun hc => hc.elim id fun he => he ▸ h⟩
    · rw [List.mem_append, List.mem_singleton]

lemma counterparts_eq : t.counterparts x = distinct (t.pairs.filterMap (·.partner? x)) := by
  rw [counterparts, List.filter_filterMap]
  rfl

lemma mem_counterparts : c ∈ t.counterparts x ↔ c ≠ x ∧ t.Joins x c := by
  rw [counterparts_eq, mem_distinct, List.mem_filterMap]
  simp only [Pairing.partner?_eq_some, Joins]
  constructor
  · rintro ⟨p, hp, hc, hj⟩
    exact ⟨hc, p, hp, hj⟩
  · rintro ⟨hc, p, hp, hj⟩
    exact ⟨p, hp, hc, hj⟩

def firstIndex (t : PairTable) (x c : PeerId) : Nat := t.pairs.findIdx (·.joins x c)

lemma findIdx_concat {ps : List Pairing} {p : Pairing} (h : c ∈ ps.filterMap (·.partner? x)) :
    (ps ++ [p]).findIdx (·.joins x c) = ps.findIdx (·.joins x c) ∧
      ps.findIdx (·.joins x c) < ps.length := by
  obtain ⟨q, hq, hc⟩ := List.mem_filterMap.mp h
  have hlt : ps.findIdx (·.joins x c) < ps.length :=
    List.findIdx_lt_length_of_exists ⟨q, hq, (Pairing.partner?_eq_some.mp hc).2⟩
  exact ⟨by rw [List.findIdx_append, if_pos hlt], hlt⟩

lemma counterparts_ascending : (t.counterparts x).Pairwise (t.firstIndex x · < t.firstIndex x ·) := by
  rw [counterparts_eq]
  unfold firstIndex
  induction t.pairs using List.reverseRecOn with
  | nil => exact List.Pairwise.nil
  | append_singleton ps p ih =>
    -- What was found before stays where it was.
    have hold : (distinct (ps.filterMap (·.partner? x))).Pairwise fun c d =>
        (ps ++ [p]).findIdx (·.joins x c) < (ps ++ [p]).findIdx (·.joins x d) := by
      refine ih.imp_of_mem fun {c d} hc hd hlt => ?_
      rw [(findIdx_concat (mem_distinct.mp hc)).1, (findIdx_concat (mem_distinct.mp hd)).1]
      exact hlt
    rw [List.filterMap_append]
    cases hp : p.partner? x with
    | none => simpa [hp] using hold
    | some a =>
      have hlast : [p].filterMap (·.partner? x) = [a] := by simp [hp]
      rw [hlast, distinct_concat]
      split
      · exact hold
      · rename_i hnew
        refine List.pairwise_append.mpr ⟨hold, List.pairwise_singleton _ _, fun c hc d hd => ?_⟩
        obtain rfl := List.mem_singleton.mp hd
        obtain ⟨heq, hlt⟩ := findIdx_concat (p := p) (mem_distinct.mp hc)
        have hd : d ≠ x := (Pairing.partner?_eq_some.mp hp).1
        have hfalse : ∀ q ∈ ps, q.joins x d = false := by
          intro q hq
          refine Bool.eq_false_iff.mpr fun hj => hnew ?_
          exact mem_distinct.mpr (List.mem_filterMap.mpr ⟨q, hq, Pairing.partner?_eq_some.mpr ⟨hd, hj⟩⟩)
        rw [heq, List.findIdx_append, List.findIdx_eq_length_of_false hfalse, if_neg (Nat.lt_irrefl _)]
        exact Nat.lt_add_left _ hlt

lemma nodup_counterparts : (t.counterparts x).Nodup := by
  refine counterparts_ascending.imp fun {c d} hlt he => ?_
  rw [he] at hlt
  exact Nat.lt_irrefl _ hlt

end Partners

end PairTable

end Rendezvous
