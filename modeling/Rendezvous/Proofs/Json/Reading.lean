import Mathlib.Data.Int.Notation
import Mathlib.Tactic.Lemma
import Rendezvous.Json.Number
import Rendezvous.Json.Reader

namespace Rendezvous.Json

section Items

variable {α : Type} {item : Reader α} {close : Char} {done : List α} {bound : Nat} {x : α}
  {cs rest : List Char}

lemma itemsFrom_close (h : item cs = some (x, close :: rest)) (hc : isSpace close = false) :
    itemsFrom item close done (bound + 1) cs = some ((x :: done).reverse, rest) := by
  have hspace : dropSpace (close :: rest) = close :: rest :=
    List.dropWhile_cons_of_neg (by simp [hc])
  simp [itemsFrom, h, hspace]

lemma itemsFrom_comma (h : item cs = some (x, ',' :: rest)) (hc : close ≠ ',') :
    itemsFrom item close done (bound + 1) cs = itemsFrom item close (x :: done) bound rest := by
  have hspace : dropSpace (',' :: rest) = ',' :: rest :=
    List.dropWhile_cons_of_neg (by decide)
  simp [itemsFrom, h, hspace, hc.symm]

lemma items_eq_itemsFrom {c : Char} (hs : isSpace c = false) (hc : c ≠ close) :
    items item close (c :: cs) = itemsFrom item close [] (cs.length + 1) (c :: cs) := by
  have hspace : dropSpace (c :: cs) = c :: cs := List.dropWhile_cons_of_neg (by simp [hs])
  simp [items, hspace, hc]

end Items

section Integers

def Ends (rest : List Char) : Prop :=
  ∀ c, rest.head? = some c → Text.isDecimal c = false ∧ c ≠ '.' ∧ c ≠ 'e' ∧ c ≠ 'E'

def digitValues (n : Nat) : List Nat := (Nat.toDigits 10 n).map fun c => c.toNat - '0'.toNat

def Numeral.ofInt (n : Int) : Numeral := { negative := n < 0, whole := digitValues n.natAbs }

variable {n : Nat} {z : Int} {rest : List Char}

lemma natOfDigits_digitValues : natOfDigits (digitValues n) = n := by
  have hn := Nat.ofDigitChars_ten_toDigits (n := n)
  rw [Nat.ofDigitChars_eq_foldl] at hn
  rw [natOfDigits, digitValues, List.foldl_map]
  simpa only [Nat.mul_comm] using hn

lemma ofInt_injective {w : Int} (h : Numeral.ofInt z = Numeral.ofInt w) : z = w := by
  obtain ⟨hneg, hwhole, -, -⟩ := Numeral.mk.inj h
  have habs : z.natAbs = w.natAbs := by
    rw [← natOfDigits_digitValues (n := z.natAbs), hwhole, natOfDigits_digitValues]
  have hsign : z < 0 ↔ w < 0 := decide_eq_decide.mp hneg
  omega

lemma isDecimal_of_mem_toDigits {c : Char} (h : c ∈ Nat.toDigits 10 n) : Text.isDecimal c = true := by
  have hd : c.isDigit = true := Nat.isDigit_of_mem_toDigits (by decide) (by decide) h
  simp only [Char.isDigit, Bool.and_eq_true, decide_eq_true_eq] at hd
  simp only [Text.isDecimal, Bool.and_eq_true, decide_eq_true_eq]
  exact hd

lemma head_toDigits_ne_zero (h : n ≠ 0) : (Nat.toDigits 10 n).head? ≠ some '0' := by
  induction n using Nat.strongRecOn with
  | ind n ih =>
    by_cases hn : n < 10
    · rw [Nat.toDigits_of_lt_base hn]
      simpa using h
    · have hle : 10 ≤ n := Nat.le_of_not_lt hn
      have hhead := ih (n / 10) (by omega) (by omega)
      rw [Nat.toDigits_of_base_le (by decide) hle]
      cases hd : Nat.toDigits 10 (n / 10) with
      | nil => exact absurd hd Nat.toDigits_ne_nil
      | cons c cs => rwa [hd] at hhead

lemma digits_toDigits (h : Ends rest) :
    digits (Nat.toDigits 10 n ++ rest) = (digitValues n, rest) := by
  have hall : ∀ c ∈ Nat.toDigits 10 n, Text.isDecimal c = true := fun c => isDecimal_of_mem_toDigits
  have hrest : rest.takeWhile Text.isDecimal = [] ∧ rest.dropWhile Text.isDecimal = rest := by
    cases rest with
    | nil => exact ⟨rfl, rfl⟩
    | cons c cs =>
      have hc := (h c rfl).1
      exact ⟨by simp [hc], by simp [hc]⟩
  rw [digits, List.takeWhile_append_of_pos hall, List.dropWhile_append_of_pos hall, hrest.1, hrest.2,
    List.append_nil]
  rfl

lemma whole_toDigits (h : Ends rest) : whole (Nat.toDigits 10 n ++ rest) = some (digitValues n, rest) := by
  by_cases hn : n = 0
  · subst hn
    rfl
  · have hsome : whole (Nat.toDigits 10 n ++ rest) = someDigits (Nat.toDigits 10 n ++ rest) := by
      have hhead := head_toDigits_ne_zero hn
      cases hd : Nat.toDigits 10 n with
      | nil => exact absurd hd Nat.toDigits_ne_nil
      | cons c cs =>
        rw [hd] at hhead
        have hc : c ≠ '0' := by simpa using hhead
        rw [List.cons_append, whole]
        simpa using hc
    have hne : (digitValues n).isEmpty = false := by
      simp [digitValues, Nat.toDigits_ne_nil]
    rw [hsome, someDigits, digits_toDigits h]
    simp [hne]

lemma fraction_of_ends (h : Ends rest) : fraction rest = some ([], rest) := by
  unfold fraction
  split
  · exact absurd rfl (h '.' rfl).2.1
  · rfl

lemma exponent_of_ends (h : Ends rest) : exponent rest = some (none, rest) := by
  unfold exponent
  split
  · exact absurd rfl (h 'e' rfl).2.2.1
  · exact absurd rfl (h 'E' rfl).2.2.2
  · rfl

lemma unsigned_toDigits {negative : Bool} (h : Ends rest) :
    unsigned negative (Nat.toDigits 10 n ++ rest) =
      some ({ negative := negative, whole := digitValues n }, rest) := by
  simp [unsigned, whole_toDigits h, fraction_of_ends h, exponent_of_ends h]

lemma toString_of_nonneg (hz : 0 ≤ z) : (toString z).toList = Nat.toDigits 10 z.natAbs := by
  have hnat : z.toNat = z.natAbs := by omega
  rw [Int.toString_eq_repr, Int.repr_eq_if, if_pos hz, Nat.toList_repr, hnat]

lemma toString_of_neg (hz : z < 0) : (toString z).toList = '-' :: Nat.toDigits 10 z.natAbs := by
  have hnat : (-z).toNat = z.natAbs := by omega
  rw [Int.toString_eq_repr, Int.repr_eq_if, if_neg (by omega), String.toList_append, Nat.toList_repr,
    hnat]
  rfl

lemma toString_head : ∃ c cs, (toString z).toList = c :: cs ∧ (Text.isDecimal c = true ∨ c = '-') := by
  by_cases hz : z < 0
  · exact ⟨'-', _, toString_of_neg hz, Or.inr rfl⟩
  · rw [toString_of_nonneg (by omega)]
    cases hd : Nat.toDigits 10 z.natAbs with
    | nil => exact absurd hd Nat.toDigits_ne_nil
    | cons c cs =>
      have hc : c ∈ Nat.toDigits 10 z.natAbs := by rw [hd]; exact List.mem_cons_self
      exact ⟨c, cs, rfl, Or.inl (isDecimal_of_mem_toDigits hc)⟩

lemma numeral_toString (h : Ends rest) :
    numeral ((toString z).toList ++ rest) = some (Numeral.ofInt z, rest) := by
  by_cases hz : z < 0
  · rw [toString_of_neg hz]
    change unsigned true (Nat.toDigits 10 z.natAbs ++ rest) = _
    rw [unsigned_toDigits h, Numeral.ofInt, decide_eq_true hz]
  · have hunsigned : ∀ {c cs}, Text.isDecimal c = true → numeral (c :: cs) = unsigned false (c :: cs) := by
      intro c cs hc
      rw [numeral]
      intro _ he
      obtain ⟨rfl, rfl⟩ := List.cons.inj he
      exact absurd hc (by decide)
    have hz' : 0 ≤ z := by omega
    rw [Numeral.ofInt, decide_eq_false hz, ← unsigned_toDigits h, ← toString_of_nonneg hz']
    obtain ⟨c, cs, hd, hc | rfl⟩ := toString_head (z := z)
    · rw [hd, List.cons_append, hunsigned hc]
    · rw [toString_of_nonneg hz'] at hd
      have hmem : '-' ∈ Nat.toDigits 10 z.natAbs := by rw [hd]; exact List.mem_cons_self
      exact absurd (isDecimal_of_mem_toDigits hmem) (by decide)

lemma document_toString {depth : Nat} (h : Ends rest) :
    document depth ((toString z).toList ++ rest) = some (.number (Numeral.ofInt z), rest) := by
  have hnum := numeral_toString (z := z) h
  obtain ⟨c, cs, hd, hc⟩ := toString_head (z := z)
  rw [hd, List.cons_append] at hnum ⊢
  -- A number begins with a digit or a minus, so nothing else is tried on it.
  have hne : ∀ k, Text.isDecimal k = false → k ≠ '-' → c ≠ k := by
    rintro k hk hk' rfl
    rcases hc with hc | hc
    · rw [hc] at hk
      exact absurd hk (by decide)
    · exact hk' hc
  have hspace : dropSpace (c :: (cs ++ rest)) = c :: (cs ++ rest) := by
    refine List.dropWhile_cons_of_neg ?_
    simp [isSpace, hne ' ' (by decide) (by decide), hne '\t' (by decide) (by decide),
      hne '\n' (by decide) (by decide), hne '\r' (by decide) (by decide)]
  have hscalar : scalar (c :: (cs ++ rest)) = some (.number (Numeral.ofInt z), rest) := by
    rw [scalar, hnum]
    · rfl
    all_goals
      intro _ he
      exact hne _ (by decide) (by decide) (List.cons.inj he).1
  cases depth with
  | zero => rw [document, hspace, hscalar]
  | succ depth =>
    rw [document, hspace]
    split
    · rename_i he
      exact absurd (List.cons.inj he).1 (hne '[' (by decide) (by decide))
    · rename_i he
      exact absurd (List.cons.inj he).1 (hne '\x7b' (by decide) (by decide))
    · exact hscalar

lemma number?_ofInt (hl : leastInteger ≤ z) (hg : z ≤ greatestWord) :
    (Numeral.ofInt z).number? = some (.integer z) := by
  have hint : (Numeral.ofInt z).integer? = some z := by
    simp only [Numeral.integer?, Numeral.isInteger, Numeral.ofInt, natOfDigits_digitValues,
      List.isEmpty_nil, Option.isNone_none, Bool.and_self, if_true, decide_eq_true_eq]
    by_cases hz : z < 0
    · have habs : -(z.natAbs : Int) = z := by omega
      rw [if_pos hz, if_pos ⟨by omega, by omega⟩, habs]
    · have habs : (z.natAbs : Int) = z := by omega
      rw [if_neg hz, if_pos (by omega), habs]
  rw [Numeral.number?, hint]

end Integers

end Rendezvous.Json
