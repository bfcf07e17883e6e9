namespace Rendezvous.Text

def splitFirst? (c : Char) : List Char → Option (List Char × List Char)
  | [] => none
  | x :: xs => if x == c then some ([], xs) else (splitFirst? c xs).map fun (l, r) => (x :: l, r)

def splitAll (c : Char) : List Char → List (List Char)
  | [] => [[]]
  | x :: xs =>
    if x == c then [] :: splitAll c xs
    else
      match splitAll c xs with
      | [] => [[x]]
      | part :: parts => (x :: part) :: parts

theorem splitFirst?_eq_some {c : Char} {xs l r : List Char} (h : splitFirst? c xs = some (l, r)) :
    xs = l ++ c :: r ∧ c ∉ l := by
  induction xs generalizing l with
  | nil => simp [splitFirst?] at h
  | cons x xs ih =>
    unfold splitFirst? at h
    split at h
    · next hx =>
      obtain ⟨rfl, rfl⟩ : l = [] ∧ r = xs := by simpa [eq_comm] using h
      simp_all
    · next hx =>
      obtain ⟨⟨l', r'⟩, h', e⟩ := Option.map_eq_some_iff.1 h
      obtain ⟨rfl, rfl⟩ : x :: l' = l ∧ r' = r := by simpa using e
      obtain ⟨rfl, hc⟩ := ih h'
      refine ⟨rfl, ?_⟩
      simp only [beq_iff_eq] at hx
      simp [hc, Ne.symm hx]

end Rendezvous.Text
