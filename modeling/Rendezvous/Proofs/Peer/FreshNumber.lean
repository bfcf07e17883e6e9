import Mathlib.Data.Int.Notation
import Mathlib.Data.List.Nodup
import Mathlib.Data.List.Perm.Subperm
import Mathlib.Logic.Function.Iterate
import Rendezvous.Peer.Table

namespace Rendezvous

namespace PeerId

def supply : ℕ := 0x80000000

lemma next_eq_mod {p : PeerId} (h₀ : 0 ≤ p) (h : p ≤ greatest) : next p = (p + 1) % supply := by
  unfold next
  split
  all_goals
    simp only [greatest, supply, PeerId] at *
    omega

lemma iterate_next {p : PeerId} (h₀ : 0 ≤ p) (h : p ≤ greatest) (k : ℕ) :
    next^[k] p = (p + k) % supply := by
  simp only [greatest, PeerId] at h h₀
  induction k with
  | zero =>
    simp only [Function.iterate_zero, id_eq, supply, PeerId]
    omega
  | succ k ih =>
    have hk : 0 ≤ (p + k) % supply ∧ (p + k) % supply ≤ greatest := by
      simp only [greatest, supply, PeerId]
      omega
    rw [Function.iterate_succ_apply', ih, next_eq_mod hk.1 hk.2]
    simp only [supply, PeerId]
    omega

lemma iterate_next_injective {p : PeerId} (h₀ : 0 ≤ p) (h : p ≤ greatest) {i j : ℕ}
    (hi : i < supply) (hj : j < supply) (he : next^[i] p = next^[j] p) : i = j := by
  rw [iterate_next h₀ h, iterate_next h₀ h] at he
  simp only [supply, PeerId] at *
  omega

end PeerId

namespace PeerTable

variable (t : PeerTable)

def firstCandidate : PeerId := (t.lastId.map PeerId.next).getD 0

lemma firstCandidate_valid : 0 ≤ t.firstCandidate ∧ t.firstCandidate ≤ PeerId.greatest := by
  unfold firstCandidate
  cases t.lastId with
  | none => decide
  | some id => exact id.next_valid

lemma freshId_eq : t.freshId = t.firstFree t.size t.firstCandidate := by
  unfold freshId firstCandidate
  cases t.lastId <;> rfl

lemma firstFree_spec (tries : ℕ) (c : PeerId) :
    ∃ k ≤ tries, t.firstFree tries c = PeerId.next^[k] c ∧
      (∀ j < k, PeerId.next^[j] c ∈ t.byId) ∧ (k < tries → PeerId.next^[k] c ∉ t.byId) := by
  induction tries generalizing c with
  | zero => exact ⟨0, Nat.le_refl 0, rfl, by simp, by simp⟩
  | succ tries ih =>
    by_cases hc : c ∈ t.byId
    · obtain ⟨k, hk, he, hbefore, hfree⟩ := ih c.next
      refine ⟨k + 1, by omega, ?_, ?_, fun hlt => hfree (by omega)⟩
      · simpa [firstFree, hc] using he
      · intro j hj
        cases j with
        | zero => exact hc
        | succ j => exact hbefore j (by omega)
    · exact ⟨0, by omega, by simp [firstFree, hc], by simp, fun _ => hc⟩

lemma freshId_valid : 0 ≤ t.freshId ∧ t.freshId ≤ PeerId.greatest := by
  obtain ⟨k, -, he, -⟩ := t.firstFree_spec t.size t.firstCandidate
  rw [freshId_eq, he, PeerId.iterate_next t.firstCandidate_valid.1 t.firstCandidate_valid.2]
  simp only [PeerId.greatest, PeerId.supply, PeerId]
  omega

lemma exists_candidate_not_mem (h : t.size < PeerId.supply) :
    ∃ j ≤ t.size, PeerId.next^[j] t.firstCandidate ∉ t.byId := by
  by_contra hall
  push Not at hall
  -- One candidate more than there are peers, and the walk does not repeat itself so soon.
  let candidates := (List.range (t.size + 1)).map (PeerId.next^[·] t.firstCandidate)
  have hnodup : candidates.Nodup := by
    refine List.Nodup.map_on ?_ List.nodup_range
    intro i hi j hj hij
    simp only [List.mem_range] at hi hj
    exact PeerId.iterate_next_injective t.firstCandidate_valid.1 t.firstCandidate_valid.2
      (by omega) (by omega) hij
  have hsub : candidates ⊆ t.byId.keys := by
    intro c hc
    obtain ⟨j, hj, rfl⟩ := List.mem_map.mp hc
    exact Std.TreeMap.mem_keys.mpr (hall j (by simp only [List.mem_range] at hj; omega))
  have hlen := (hnodup.subperm hsub).length_le
  simp only [candidates, List.length_map, List.length_range, Std.TreeMap.length_keys] at hlen
  unfold size at hlen
  omega

def HasFree : Prop := ∃ k, PeerId.next^[k] t.firstCandidate ∉ t.byId

variable {t}

lemma hasFree_of_size_lt (h : t.size < PeerId.supply) : t.HasFree :=
  (t.exists_candidate_not_mem h).imp fun _ hj => hj.2

lemma HasFree.within_size (h : t.HasFree) : ∃ j ≤ t.size, PeerId.next^[j] t.firstCandidate ∉ t.byId := by
  by_cases hs : t.size < PeerId.supply
  · exact t.exists_candidate_not_mem hs
  · obtain ⟨k, hk⟩ := h
    have hround : PeerId.next^[k % PeerId.supply] t.firstCandidate =
        PeerId.next^[k] t.firstCandidate := by
      have hc := t.firstCandidate_valid
      rw [PeerId.iterate_next hc.1 hc.2, PeerId.iterate_next hc.1 hc.2]
      simp only [PeerId.supply, PeerId] at *
      omega
    have hlt : k % PeerId.supply < PeerId.supply := Nat.mod_lt _ (by decide)
    exact ⟨k % PeerId.supply, by omega, by rwa [hround]⟩

lemma HasFree.freshId_not_mem (h : t.HasFree) : t.freshId ∉ t.byId := by
  obtain ⟨k, hk, he, hbefore, hfree⟩ := t.firstFree_spec t.size t.firstCandidate
  obtain ⟨j, hj, hjfree⟩ := h.within_size
  rw [freshId_eq, he]
  by_cases hlast : k < t.size
  · exact hfree hlast
  · obtain rfl : j = k := by
      by_contra hn
      exact hjfree (hbefore j (by omega))
    exact hjfree

end PeerTable

end Rendezvous
