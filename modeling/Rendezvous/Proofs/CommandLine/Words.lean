import Rendezvous.CommandLine
import Rendezvous.Proofs.Text.Split

namespace Rendezvous.CommandLine

variable {s k word : String} {cs name value : List Char} {f : Flag} {p : Place}

lemma ofString_long (hs : s.toList = '-' :: '-' :: cs)
    (h : Text.splitFirst? '=' cs = some (name, value)) :
    Word.ofString s = .long (String.ofList name) (some (String.ofList value)) := by
  cases cs with
  | nil => cases h
  | cons c cs => simp only [Word.ofString, hs, h]

lemma ofString_plain (h : k = "-" ∨ k.toList.head? ≠ some '-') : Word.ofString k = .plain k := by
  rcases h with rfl | h
  · rfl
  · rw [Word.ofString]
    split
    · simp_all
    · simp_all
    · simp_all
    · rfl

lemma ofString_joined : Word.ofString ("--" ++ f.name ++ "=" ++ k) = .long f.name (some k) := by
  have hlist : ("--" ++ f.name ++ "=" ++ k).toList = '-' :: '-' :: (f.name.toList ++ '=' :: k.toList) := by
    simp
  have hname : '=' ∉ f.name.toList := by
    cases f <;> decide
  rw [ofString_long hlist (Text.splitFirst?_append hname), String.ofList_toList, String.ofList_toList]

lemma ofString_name : Word.ofString ("--" ++ f.name) = .long f.name none := by
  cases f <;> decide

lemma eq_of_ofString_escape (h : Word.ofString s = .escape) : s = "--" := by
  rw [Word.ofString] at h
  split at h
  · rename_i hs
    exact String.toList_inj.mp hs
  · split at h <;> cases h
  · cases h
  · cases h

lemma eq_of_ofString_long {n : String} {v : Option String} (h : Word.ofString s = .long n v) :
    s = v.elim ("--" ++ n) ("--" ++ n ++ "=" ++ ·) := by
  rw [Word.ofString] at h
  split at h
  · cases h
  · rename_i cs _ hs
    split at h
    · rename_i l r hsplit
      obtain ⟨rfl, -⟩ := Text.splitFirst?_eq_some hsplit
      cases h
      apply String.toList_inj.mp
      simpa using hs
    · cases h
      apply String.toList_inj.mp
      simpa using hs
  · cases h
  · cases h

lemma plain_of_ofString (h : Word.ofString s = .plain word) :
    word = s ∧ (s = "-" ∨ s.toList.head? ≠ some '-') := by
  rw [Word.ofString] at h
  split at h
  · cases h
  · split at h <;> cases h
  · cases h
  · rename_i hoption
    cases h
    refine ⟨rfl, or_iff_not_imp_right.mpr fun hhead => ?_⟩
    obtain ⟨cs, hs⟩ := List.head?_eq_some_iff.mp (not_not.mp hhead)
    cases cs with
    | nil => exact String.toList_inj.mp hs
    | cons c cs => exact (hoption c cs hs).elim

lemma flag?_name (hp : p.flags = Flag.all) : p.flag? f.name = some f := by
  rw [Place.flag?, hp]
  cases f <;> rfl

lemma name_of_flag? {n : String} (h : p.flag? n = some f) : f.name = n := by
  rw [Place.flag?] at h
  have hname := List.find?_some h
  exact eq_of_beq hname

lemma parse_word {rest : List String} (h : Word.ofString word = .plain word) :
    parse (word :: rest) = command word rest := by
  simp only [parse, options, h, Scan.expects?, Scan.settle]
  cases command word rest <;> rfl

end Rendezvous.CommandLine
