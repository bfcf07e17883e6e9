import Mathlib.Data.List.Basic
import Mathlib.Tactic.Lemma
import Rendezvous.Text.Split

namespace Rendezvous.Text

variable {c : Char} {xs ys part : List Char}

lemma splitFirst?_append (h : c ∉ xs) : splitFirst? c (xs ++ c :: ys) = some (xs, ys) := by
  induction xs with
  | nil => simp [splitFirst?]
  | cons x xs ih =>
    rw [List.mem_cons, not_or] at h
    rw [List.cons_append, splitFirst?, beq_false_of_ne (Ne.symm h.1), if_neg (by simp), ih h.2]
    rfl

lemma splitFirst?_eq_none_iff : splitFirst? c xs = none ↔ c ∉ xs := by
  constructor
  · intro h hc
    obtain ⟨l, r, rfl, hl⟩ := List.eq_append_cons_of_mem hc
    rw [splitFirst?_append hl] at h
    exact absurd h (by simp)
  · intro h
    cases hs : splitFirst? c xs with
    | none => rfl
    | some lr =>
      obtain ⟨rfl, -⟩ := splitFirst?_eq_some hs
      exact absurd (List.mem_append_right _ List.mem_cons_self) h

lemma splitAll_ne_nil : splitAll c xs ≠ [] := by
  cases xs with
  | nil => simp [splitAll]
  | cons x xs =>
    rw [splitAll]
    split
    · simp
    · split <;> simp

lemma splitAll_append_cons : splitAll c (xs ++ c :: ys) = splitAll c xs ++ splitAll c ys := by
  induction xs with
  | nil => simp [splitAll]
  | cons x xs ih =>
    rw [List.cons_append, splitAll, splitAll, ih]
    split
    · rfl
    · cases h : splitAll c xs with
      | nil => exact absurd h splitAll_ne_nil
      | cons p ps => rfl

lemma splitAll_append_flatMap {α : Type} {f : α → List Char} {es : List α} :
    splitAll c (xs ++ es.flatMap fun e => c :: f e) =
      splitAll c xs ++ es.flatMap fun e => splitAll c (f e) := by
  induction es generalizing xs with
  | nil => simp
  | cons e es ih =>
    rw [List.flatMap_cons, List.cons_append, splitAll_append_cons, ih, List.flatMap_cons]

lemma splitAll_of_not_mem (h : c ∉ xs) : splitAll c xs = [xs] := by
  induction xs with
  | nil => rfl
  | cons x xs ih =>
    rw [List.mem_cons, not_or] at h
    have hx : (x == c) = false := beq_false_of_ne (Ne.symm h.1)
    simp [splitAll, hx, ih h.2]

lemma length_splitAll : (splitAll c xs).length = xs.count c + 1 := by
  induction xs with
  | nil => rfl
  | cons x xs ih =>
    rw [splitAll, List.count_cons]
    split
    · rw [List.length_cons, ih]
    · rw [← ih]
      cases h : splitAll c xs with
      | nil => exact absurd h splitAll_ne_nil
      | cons p ps => rfl

lemma sublist_of_mem_splitAll (h : part ∈ splitAll c xs) : part.Sublist xs := by
  induction xs generalizing part with
  | nil =>
    obtain rfl := List.mem_singleton.mp h
    exact .refl _
  | cons x xs ih =>
    rw [splitAll] at h
    split at h
    · rcases List.mem_cons.mp h with rfl | h
      · exact List.nil_sublist _
      · exact (ih h).cons x
    · cases hs : splitAll c xs with
      | nil => exact absurd hs splitAll_ne_nil
      | cons p ps =>
        rw [hs] at h ih
        rcases List.mem_cons.mp h with rfl | h
        · exact (ih List.mem_cons_self).cons_cons x
        · exact (ih (List.mem_cons_of_mem p h)).cons x

def IsPart (c : Char) (part xs : List Char) : Prop :=
  c ∉ part ∧ ∃ before after, c :: (xs ++ [c]) = before ++ c :: (part ++ c :: after)

lemma isPart_of_mem_splitAll (h : part ∈ splitAll c xs) : IsPart c part xs := by
  induction hn : xs.length using Nat.strongRecOn generalizing xs with
  | ind n ih =>
    by_cases hc : c ∈ xs
    · -- the first part is up to the first `c`, and the others are parts of what is behind it
      obtain ⟨first, others, rfl, hfirst⟩ := List.eq_append_cons_of_mem hc
      rw [splitAll_append_cons, splitAll_of_not_mem hfirst, List.singleton_append] at h
      rcases List.mem_cons.mp h with rfl | h
      · exact ⟨hfirst, [], others ++ [c], by simp⟩
      · rw [List.length_append, List.length_cons] at hn
        obtain ⟨hpart, before, after, he⟩ := ih others.length (by omega) h rfl
        refine ⟨hpart, c :: (first ++ before), after, ?_⟩
        simp only [List.cons_append, List.append_assoc, ← he]
    · rw [splitAll_of_not_mem hc, List.mem_singleton] at h
      subst h
      exact ⟨hc, [], [], rfl⟩

lemma mem_splitAll_iff : part ∈ splitAll c xs ↔ IsPart c part xs := by
  refine ⟨isPart_of_mem_splitAll, ?_⟩
  rintro ⟨hpart, before, after, he⟩
  obtain ⟨first, ps, hbefore⟩ : ∃ first ps, splitAll c before = first :: ps :=
    List.exists_cons_of_ne_nil splitAll_ne_nil
  obtain ⟨last, qs, hafter⟩ : ∃ last qs, splitAll c after = qs ++ [last] :=
    ⟨_, _, (List.dropLast_append_getLast splitAll_ne_nil).symm⟩
  -- splitting both sides of `he`: the part is neither the first nor the last
  have hwhole : [] :: (splitAll c xs ++ [[]]) = first :: (ps ++ part :: qs ++ [last]) := by
    have hleft : splitAll c (c :: (xs ++ [c])) = [] :: (splitAll c xs ++ [[]]) := by
      rw [← List.nil_append (c :: _), splitAll_append_cons, splitAll_append_cons]
      rfl
    rw [← hleft, he, splitAll_append_cons, splitAll_append_cons, splitAll_of_not_mem hpart,
      hbefore, hafter]
    simp
  obtain ⟨-, hparts⟩ := List.cons.inj hwhole
  obtain ⟨hsplit, -⟩ := List.append_inj' hparts rfl
  simp [hsplit]

end Rendezvous.Text
