import Mathlib.Data.List.Basic
import Mathlib.Tactic.Lemma
import Rendezvous.Text.Blank

namespace Rendezvous.Text

variable {c : Char} {cs gap run word : List Char} {ws vs : List (List Char)}

def Blanks (gap : List Char) : Prop := ∀ c ∈ gap, isBlank c = true

def Solid (word : List Char) : Prop := ∀ c ∈ word, isBlank c = false

/-- A text with these words: blanks come before, behind and between them. -/
inductive Spaced : List (List Char) → List Char → Prop
  | nil {gap : List Char} (hgap : Blanks gap) : Spaced [] gap
  | last {gap word : List Char} (hgap : Blanks gap) (hne : word ≠ []) (hword : Solid word) :
      Spaced [word] (gap ++ word)
  | cons {gap word cs : List Char} {c : Char} {ws : List (List Char)} (hgap : Blanks gap)
      (hne : word ≠ []) (hword : Solid word) (hc : isBlank c = true) (hrest : Spaced ws cs) :
      Spaced (word :: ws) (gap ++ (word ++ c :: cs))

lemma blanks_nil : Blanks [] := fun _ h => absurd h List.not_mem_nil

lemma Blanks.cons (hc : isBlank c = true) (hgap : Blanks gap) : Blanks (c :: gap) := by
  intro x hx
  rcases List.mem_cons.mp hx with rfl | hx
  · exact hc
  · exact hgap x hx

lemma solid_nil : Solid [] := fun _ h => absurd h List.not_mem_nil

lemma Solid.append (hrun : Solid run) (hword : Solid word) : Solid (run ++ word) := by
  intro x hx
  rcases List.mem_append.mp hx with hx | hx
  · exact hrun x hx
  · exact hword x hx

lemma words_append_blanks (hgap : Blanks gap) : words (gap ++ cs) = words cs := by
  induction gap with
  | nil => rfl
  | cons c gap ih =>
    have hrest : Blanks gap := fun x hx => hgap x (List.mem_cons_of_mem c hx)
    rw [List.cons_append, words_blank (hgap c List.mem_cons_self), ih hrest]

lemma wordsFrom_append (hword : Solid word) :
    wordsFrom run (word ++ cs) = wordsFrom (word.reverse ++ run) cs := by
  induction word generalizing run with
  | nil => rfl
  | cons c word ih =>
    have hrest : Solid word := fun x hx => hword x (List.mem_cons_of_mem c hx)
    have hc : isBlank c = false := hword c List.mem_cons_self
    rw [List.cons_append, wordsFrom, hc, if_neg (by simp), ih hrest, List.reverse_cons,
      List.append_assoc, List.singleton_append]

lemma words_solid (hne : word ≠ []) (hword : Solid word) : words word = [word] := by
  have h : words (word ++ []) = wordsFrom (word.reverse ++ []) [] := wordsFrom_append hword
  rw [List.append_nil, List.append_nil] at h
  rw [h, wordsFrom, if_neg (by simpa using hne), List.reverse_reverse]

lemma words_solid_append (hne : word ≠ []) (hword : Solid word) (hc : isBlank c = true) :
    words (word ++ c :: cs) = word :: words cs := by
  rw [words, wordsFrom_append hword, wordsFrom, if_pos hc, List.append_nil,
    if_neg (by simpa using hne), List.reverse_reverse]
  rfl

lemma Spaced.words_eq (h : Spaced ws cs) : words cs = ws := by
  induction h with
  | nil hgap =>
    have hnil : words (_ ++ []) = words [] := words_append_blanks hgap
    rwa [List.append_nil, words_nil] at hnil
  | last hgap hne hword => rw [words_append_blanks hgap, words_solid hne hword]
  | cons hgap hne hword hc _ ih =>
    rw [words_append_blanks hgap, words_solid_append hne hword hc, ih]

lemma Spaced.blank (hc : isBlank c = true) (h : Spaced ws cs) : Spaced ws (c :: cs) := by
  cases h with
  | nil hgap => exact .nil (hgap.cons hc)
  | last hgap hne hword => exact .last (hgap.cons hc) hne hword
  | cons hgap hne hword hd hrest => exact .cons (hgap.cons hc) hne hword hd hrest

-- the word that is being read stands in front of what is left
lemma spaced_wordsFrom (hrun : Solid run.reverse) : Spaced (wordsFrom run cs) (run.reverse ++ cs) := by
  induction cs generalizing run with
  | nil =>
    rw [wordsFrom]
    split
    · rename_i hempty
      rw [List.isEmpty_iff.mp hempty]
      exact .nil blanks_nil
    · rename_i hfull
      rw [List.append_nil]
      exact .last blanks_nil (by simpa using hfull) hrun
  | cons c cs ih =>
    rw [wordsFrom]
    split
    · rename_i hc
      have hrest : Spaced (words cs) cs := ih solid_nil
      split
      · rename_i hempty
        rw [List.isEmpty_iff.mp hempty]
        exact hrest.blank hc
      · rename_i hfull
        exact .cons blanks_nil (by simpa using hfull) hrun hc hrest
    · rename_i hc
      have hmore : Solid (c :: run).reverse := by
        rw [List.reverse_cons]
        exact hrun.append (by simpa [Solid] using hc)
      have hnext := ih hmore
      rwa [List.reverse_cons, List.append_assoc, List.singleton_append] at hnext

lemma spaced_words (cs : List Char) : Spaced (words cs) cs :=
  spaced_wordsFrom solid_nil

theorem words_eq_iff : words cs = ws ↔ Spaced ws cs := by
  constructor
  · rintro rfl
    exact spaced_words cs
  · exact Spaced.words_eq

lemma Spaced.solid (h : Spaced ws cs) : ∀ w ∈ ws, w ≠ [] ∧ Solid w := by
  induction h with
  | nil _ => simp
  | last _ hne hword => simpa using ⟨hne, hword⟩
  | cons _ hne hword _ _ ih =>
    intro w hw
    rcases List.mem_cons.mp hw with rfl | hw
    · exact ⟨hne, hword⟩
    · exact ih w hw

lemma spaced_two {first second before between behind : List Char} (hbefore : Blanks before)
    (hbetween : Blanks between) (hbehind : Blanks behind) (hgap : between ≠ []) (hfirst : first ≠ [])
    (hsecond : second ≠ []) (hf : Solid first) (hs : Solid second) :
    Spaced [first, second] (before ++ (first ++ (between ++ (second ++ behind)))) := by
  obtain ⟨c, between, rfl⟩ := List.exists_cons_of_ne_nil hgap
  have hrest : Blanks between := fun x hx => hbetween x (List.mem_cons_of_mem c hx)
  have hc : isBlank c = true := hbetween c List.mem_cons_self
  rw [List.cons_append]
  apply Spaced.cons hbefore hfirst hf hc
  cases behind with
  | nil =>
    rw [List.append_nil]
    exact .last hrest hsecond hs
  | cons b behind =>
    have hlast : Blanks behind := fun x hx => hbehind x (List.mem_cons_of_mem b hx)
    exact .cons hrest hsecond hs (hbehind b List.mem_cons_self) (.nil hlast)

end Rendezvous.Text
