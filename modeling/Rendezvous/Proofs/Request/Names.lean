import Rendezvous.Proofs.Request.Fields

namespace Rendezvous.Request

open Json (Document Value)
open Json.Document (meaning?)

inductive Spells : Option Value → String → Prop where
  | text (s : String) : Spells (some (.text s)) s
  | number (n : Json.Number) : Spells (some (.number n)) n.text
  | other {x : Option Value} (htext : ∀ s, x ≠ some (.text s)) (hnumber : ∀ n, x ≠ some (.number n)) :
      Spells x ""

def Names (document : String) (sig : Signal) (name : String) : Prop :=
  ∃ ms, IsObject document ms ∧ meaning? ms "signal" = some (.text sig.name) ∧
    Spells (meaning? ms "name") name

variable {document name field : String} {ms : List (String × Document)} {v : Value} {unlisted : Bool}

lemma spells_textField : Spells (v.member? field) (textField v field) := by
  unfold textField
  split
  · rename_i s h
    exact h ▸ .text s
  · rename_i n h
    exact h ▸ .number n
  · rename_i htext hnumber
    exact .other htext hnumber

lemma Spells.unique {x : Option Value} {s t : String} (hs : Spells x s) (ht : Spells x t) : s = t := by
  cases hs with
  | text s =>
    cases ht with
    | text _ => rfl
    | other htext _ => exact absurd rfl (htext s)
  | number n =>
    cases ht with
    | number _ => rfl
    | other _ hnumber => exact absurd rfl (hnumber n)
  | other htext hnumber =>
    cases ht with
    | text t => exact absurd rfl (htext t)
    | number n => exact absurd rfl (hnumber n)
    | other _ _ => rfl

lemma textField_eq_iff : textField v field = name ↔ Spells (v.member? field) name := by
  constructor
  · rintro rfl
    exact spells_textField
  · exact spells_textField.unique

lemma parse_exist_iff : parse document = .ok (.exist name) ↔ Names document .exist name := by
  constructor
  · intro h
    obtain ⟨ms, v, hobject, hsig, hmember, hv⟩ := exists_fields h
    obtain rfl : textField v "name" = name := by simpa [ofSignal, signal] using hv
    refine ⟨ms, hobject, hsig, ?_⟩
    rw [← hmember]
    exact spells_textField
  · rintro ⟨ms, hobject, hsig, hspells⟩
    obtain ⟨v, hv, hmember⟩ := parse_signal hobject .exist hsig
    rw [← hmember, ← textField_eq_iff] at hspells
    rw [hv, ofSignal, hspells]

lemma exists_signIn (h : parse document = .ok (.signIn name unlisted)) : ∃ ms, IsObject document ms ∧
    meaning? ms "signal" = some (.text "sign_in") ∧ Spells (meaning? ms "name") name ∧
    (unlisted = true ↔ "nolist" ∈ ms.map Prod.fst) := by
  obtain ⟨ms, v, hobject, hsig, hmember, hv⟩ := exists_fields h
  obtain ⟨hname, hnolist⟩ : textField v "name" = name ∧ (v.member? "nolist").isSome = unlisted := by
    simpa [ofSignal, signal] using hv
  refine ⟨ms, hobject, hsig, ?_, ?_⟩
  · rwa [← hmember, ← textField_eq_iff]
  · rw [← hnolist, hmember, Document.isSome_meaning? hobject.means]

lemma parse_signIn_iff :
    (∃ unlisted, parse document = .ok (.signIn name unlisted)) ↔ Names document .signIn name := by
  constructor
  · rintro ⟨unlisted, h⟩
    obtain ⟨ms, hobject, hsig, hspells, -⟩ := exists_signIn h
    exact ⟨ms, hobject, hsig, hspells⟩
  · rintro ⟨ms, hobject, hsig, hspells⟩
    obtain ⟨v, hv, hmember⟩ := parse_signal hobject .signIn hsig
    rw [← hmember, ← textField_eq_iff] at hspells
    exact ⟨(v.member? "nolist").isSome, by rw [hv, ofSignal, hspells]⟩

end Rendezvous.Request
