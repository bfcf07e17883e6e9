import Mathlib.Data.List.Induction
import Mathlib.Data.String.Basic
import Mathlib.Tactic.Lemma
import Rendezvous.Json.Reader

namespace Rendezvous.Json

namespace Tree

variable {ν : Type} {key k : String} {x : Tree ν} {ms acc : List (String × Tree ν)}

lemma foldl_lastMember? (found : Option (Tree ν)) :
    ms.foldl (fun found m => if m.1 == key then some m.2 else found) found =
      (lastMember? key ms).or found := by
  induction ms using List.reverseRecOn with
  | nil => rfl
  | append_singleton ms m ih =>
    rw [List.foldl_concat, ih, lastMember?_append]
    split <;> rfl

lemma lastMember?_cons : lastMember? key ((k, x) :: ms) =
    (lastMember? key ms).or (if k = key then some x else none) := by
  rw [lastMember?, List.foldl_cons, foldl_lastMember?]
  simp only [beq_iff_eq]

lemma lastMember?_eq_none (h : ∀ m ∈ ms, m.1 ≠ key) : lastMember? key ms = none := by
  induction ms with
  | nil => rfl
  | cons m ms ih =>
    rw [List.forall_mem_cons] at h
    rw [lastMember?_cons, ih h.2, if_neg h.1]
    rfl

lemma isSome_lastMember? : (lastMember? key ms).isSome ↔ key ∈ ms.map Prod.fst := by
  induction ms with
  | nil => simp [lastMember?]
  | cons m ms ih =>
    rw [lastMember?_cons, Option.isSome_or, Bool.or_eq_true, ih, List.map_cons, List.mem_cons, or_comm]
    refine or_congr_left ?_
    split
    · rename_i hk
      exact iff_of_true rfl hk.symm
    · rename_i hk
      exact iff_of_false Bool.false_ne_true fun he => hk he.symm

def Ascending (ms : List (String × Tree ν)) : Prop := ms.Pairwise fun m n => m.1 < n.1

lemma mem_putMember {m : String × Tree ν} (h : m ∈ putMember k x ms) : m = (k, x) ∨ m ∈ ms := by
  induction ms with
  | nil => exact Or.inl (List.mem_singleton.mp h)
  | cons n ms ih =>
    rw [putMember] at h
    split at h
    · exact List.mem_cons.mp h
    · split at h
      · exact (List.mem_cons.mp h).imp_right (List.mem_cons_of_mem n)
      · rcases List.mem_cons.mp h with rfl | h
        · exact Or.inr List.mem_cons_self
        · exact (ih h).imp_right (List.mem_cons_of_mem n)

lemma Ascending.putMember (h : Ascending ms) : Ascending (putMember k x ms) := by
  induction ms with
  | nil => exact List.pairwise_singleton _ _
  | cons m ms ih =>
    obtain ⟨hm, hms⟩ := List.pairwise_cons.mp h
    rw [Json.putMember]
    split
    · rename_i hlt
      refine List.pairwise_cons.mpr ⟨fun n hn => ?_, h⟩
      rcases List.mem_cons.mp hn with rfl | hn
      · exact hlt
      · exact hlt.trans (hm n hn)
    · rename_i hle
      split
      · rename_i heq
        refine List.pairwise_cons.mpr ⟨fun n hn => ?_, hms⟩
        exact (eq_of_beq heq) ▸ hm n hn
      · rename_i hne
        refine List.pairwise_cons.mpr ⟨fun n hn => ?_, ih hms⟩
        have hlt : m.1 < k := lt_of_le_of_ne (not_lt.mp hle) fun he => hne (beq_iff_eq.mpr he.symm)
        rcases mem_putMember hn with rfl | hn
        · exact hlt
        · exact hm n hn

lemma Ascending.lastMember?_putMember (h : Ascending ms) : lastMember? key (Json.putMember k x ms) =
    if k = key then some x else lastMember? key ms := by
  induction ms with
  | nil => exact lastMember?_cons
  | cons m ms ih =>
    obtain ⟨hm, hms⟩ := List.pairwise_cons.mp h
    rw [Json.putMember]
    split
    · rename_i hlt
      rw [lastMember?_cons]
      split
      · rename_i hk
        subst hk
        rw [lastMember?_eq_none]
        · rfl
        · intro n hn
          rcases List.mem_cons.mp hn with rfl | hn
          · exact hlt.ne'
          · exact (hlt.trans (hm n hn)).ne'
      · exact Option.or_none
    · split
      · rename_i heq
        obtain rfl := eq_of_beq heq
        rw [lastMember?_cons, lastMember?_cons]
        split
        · rename_i hk
          subst hk
          rw [lastMember?_eq_none fun n hn => (hm n hn).ne']
          rfl
        · rfl
      · rename_i hne
        rw [lastMember?_cons, ih hms, lastMember?_cons]
        split <;> rfl

lemma Ascending.lastMember?_foldl (h : Ascending acc) :
    lastMember? key (ms.foldl (fun acc m => Json.putMember m.1 m.2 acc) acc) =
      (lastMember? key ms).or (lastMember? key acc) := by
  induction ms generalizing acc with
  | nil => rfl
  | cons m ms ih =>
    rw [List.foldl_cons, ih h.putMember, h.lastMember?_putMember, lastMember?_cons]
    cases lastMember? key ms with
    | some y => rfl
    | none => split <;> rfl

end Tree

namespace Document

variable {key : String} {ms : List (String × Document)} {vs : List (String × Value)} {v : Value}

lemma members?_cons {k : String} {d : Document} (h : members? ((k, d) :: ms) = some vs) :
    ∃ x xs, value? d = some x ∧ members? ms = some xs ∧ vs = (k, x) :: xs := by
  rw [members?] at h
  split at h
  · exact absurd h (by simp)
  · rename_i x hx
    obtain ⟨xs, hxs, rfl⟩ := Option.map_eq_some_iff.mp h
    exact ⟨x, xs, hx, hxs, rfl⟩

lemma lastMember?_members? (h : members? ms = some vs) :
    (Tree.lastMember? key ms).map value? = (Tree.lastMember? key vs).map some := by
  induction ms generalizing vs with
  | nil =>
    obtain rfl := Option.some.inj h
    rfl
  | cons m ms ih =>
    obtain ⟨x, xs, hx, hxs, rfl⟩ := members?_cons h
    rw [Tree.lastMember?_cons, Tree.lastMember?_cons, Option.map_or, Option.map_or, ih hxs]
    split
    · rw [Option.map_some, Option.map_some, hx]
    · rfl

mutual

def numerals : Document → List Numeral
  | .null => []
  | .boolean _ => []
  | .number n => [n]
  | .text _ => []
  | .array items => itemNumerals items
  | .object members => memberNumerals members

def itemNumerals : List Document → List Numeral
  | [] => []
  | d :: ds => numerals d ++ itemNumerals ds

def memberNumerals : List (String × Document) → List Numeral
  | [] => []
  | (_, d) :: ms => numerals d ++ memberNumerals ms

end

mutual

lemma isSome_value? : ∀ d : Document, (value? d).isSome ↔ ∀ n ∈ numerals d, n.number?.isSome
  | .null | .boolean _ | .text _ => by simp [value?, numerals]
  | .number n => by simp [value?, numerals]
  | .array items => by
    rw [value?, numerals, Option.isSome_map]
    exact isSome_values? items
  | .object members => by
    rw [value?, numerals, Option.isSome_map]
    exact isSome_members? members

lemma isSome_values? :
    ∀ ds : List Document, (values? ds).isSome ↔ ∀ n ∈ itemNumerals ds, n.number?.isSome
  | [] => by simp [values?, itemNumerals]
  | d :: ds => by
    rw [itemNumerals, List.forall_mem_append, ← isSome_value? d, ← isSome_values? ds, values?]
    cases value? d <;> simp

lemma isSome_members? : ∀ ms : List (String × Document),
    (members? ms).isSome ↔ ∀ n ∈ memberNumerals ms, n.number?.isSome
  | [] => by simp [members?, memberNumerals]
  | (_, d) :: ms => by
    rw [memberNumerals, List.forall_mem_append, ← isSome_value? d, ← isSome_members? ms, members?]
    cases value? d <;> simp

end

def meaning? (ms : List (String × Document)) (key : String) : Option Value :=
  (Tree.lastMember? key ms).bind value?

lemma meaning?_text {s : String} (h : Tree.lastMember? key ms = some (.text s)) :
    meaning? ms key = some (.text s) := by
  rw [meaning?, h]
  rfl

lemma exists_meaning {d : Document} (hmeans : (value? (.object ms)).isSome)
    (hd : Tree.lastMember? key ms = some d) : ∃ x, value? d = some x ∧ meaning? ms key = some x := by
  obtain ⟨y, hy⟩ := Option.isSome_iff_exists.mp hmeans
  rw [value?] at hy
  obtain ⟨vs, hvs, -⟩ := Option.map_eq_some_iff.mp hy
  have hlast : (Tree.lastMember? key ms).map value? = (Tree.lastMember? key vs).map some :=
    lastMember?_members? hvs
  rw [hd, Option.map_some] at hlast
  obtain ⟨x, -, hx⟩ := Option.map_eq_some_iff.mp hlast.symm
  exact ⟨x, hx.symm, by rw [meaning?, hd, Option.bind_some, hx]⟩

lemma isSome_meaning? (hmeans : (value? (.object ms)).isSome) :
    (meaning? ms key).isSome ↔ key ∈ ms.map Prod.fst := by
  rw [← Tree.isSome_lastMember?]
  cases hd : Tree.lastMember? key ms with
  | none => simp [meaning?, hd]
  | some d =>
    obtain ⟨x, -, hx⟩ := exists_meaning hmeans hd
    simp [hx]

lemma member?_of_value? (h : value? (.object ms) = some v) : v.member? key = meaning? ms key := by
  rw [value?] at h
  obtain ⟨vs, hvs, rfl⟩ := Option.map_eq_some_iff.mp h
  have hlast : (Tree.lastMember? key ms).map value? = (Tree.lastMember? key vs).map some :=
    lastMember?_members? hvs
  have hmember : (Tree.object (vs.foldl (fun acc m => putMember m.1 m.2 acc) [])).member? key =
      Tree.lastMember? key vs :=
    (Tree.Ascending.lastMember?_foldl List.Pairwise.nil).trans Option.or_none
  rw [hmember, meaning?]
  cases hd : Tree.lastMember? key ms with
  | none =>
    rw [hd] at hlast
    exact Option.map_eq_none_iff.mp hlast.symm
  | some d =>
    rw [hd] at hlast
    obtain ⟨x, hx, he⟩ := Option.map_eq_some_iff.mp hlast.symm
    rw [hx]
    exact he

end Document

end Rendezvous.Json
