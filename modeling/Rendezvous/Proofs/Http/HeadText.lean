import Mathlib.Data.List.Basic
import Mathlib.Data.List.TakeWhile
import Rendezvous.Http.Head

/-! The grammar of a request head. The reader takes just the texts of this grammar with no more
fields than it allows, and stops right behind the blank line that ends them. -/

namespace Rendezvous.Http

inductive LineEnd where
  | lf
  | crlf

def LineEnd.octets : LineEnd → List UInt8
  | .lf => [Http.lf]
  | .crlf => [cr, Http.lf]

structure RequestLine where
  blanks : List LineEnd
  method : List UInt8
  target : List UInt8
  minor : UInt8
  ending : LineEnd
  method_ne_nil : method ≠ []
  isToken_method : ∀ b ∈ method, isToken b
  target_ne_nil : target ≠ []
  isTargetOctet_target : ∀ b ∈ target, isTargetOctet b
  decodes_target : (Text.decode? target).isSome
  minor_eq : minor = 48 ∨ minor = 49

namespace RequestLine

def octets (q : RequestLine) : List UInt8 :=
  q.blanks.flatMap LineEnd.octets ++
    (q.method ++ space :: (q.target ++ space :: (HeadReader.versionStem ++ q.minor :: q.ending.octets)))

end RequestLine

/-- Blanks in front of a value do not belong to it, those behind it do. -/
structure FieldLine where
  name : List UInt8
  gap : List UInt8
  value : List UInt8
  ending : LineEnd
  name_ne_nil : name ≠ []
  isToken_name : ∀ b ∈ name, isToken b
  gap_blank : ∀ b ∈ gap, b = space ∨ b = tab
  isValueOctet_value : ∀ b ∈ value, isValueOctet b
  value_head : ∀ b ∈ value.head?, b ≠ space ∧ b ≠ tab

namespace FieldLine

def octets (l : FieldLine) : List UInt8 :=
  l.name ++ colon :: (l.gap ++ (l.value ++ l.ending.octets))

def field (l : FieldLine) : Field := ⟨l.name, l.value⟩

end FieldLine

structure HeadText where
  request : RequestLine
  lines : List FieldLine
  last : LineEnd

namespace HeadText

def octets (t : HeadText) : List UInt8 :=
  t.request.octets ++ (t.lines.flatMap FieldLine.octets ++ t.last.octets)

def head (t : HeadText) : Head :=
  ⟨t.request.method, t.request.target, t.lines.map FieldLine.field⟩

end HeadText

namespace HeadReader

variable {r s : HeadReader} {head : Head} {bs rest m t : List UInt8} {fs : List Field} {x : Step}
  {b : UInt8}

def Step.outcome : Step → List UInt8 → Outcome
  | .more r, bs => r.feed bs
  | .complete head, bs => .complete head bs
  | .invalid, _ => .invalid

lemma feed_cons (r : HeadReader) (b : UInt8) (bs : List UInt8) :
    r.feed (b :: bs) = (r.step b).outcome bs := by
  rw [feed]
  cases r.step b <;> rfl

structure Ends (r : HeadReader) (x : Step) : Prop where
  lf_eq : r.step lf = x
  cr_eq : ∃ s, r.step cr = .more s ∧ ∀ b, s.step b = if b == lf then x else .invalid

lemma Ends.feed (h : r.Ends x) (e : LineEnd) (bs : List UInt8) :
    r.feed (e.octets ++ bs) = x.outcome bs := by
  cases e with
  | lf => exact (feed_cons r lf bs).trans (congrArg (·.outcome bs) h.lf_eq)
  | crlf =>
    obtain ⟨s, hcr, hs⟩ := h.cr_eq
    change r.feed (cr :: lf :: bs) = x.outcome bs
    rw [feed_cons, hcr, Step.outcome, feed_cons, hs]
    rfl

lemma Ends.exists_of_feed (h : r.Ends x) (hb : b = cr ∨ b = lf)
    (hf : r.feed (b :: bs) = .complete head rest) :
    ∃ (e : LineEnd) (more : List UInt8), b :: bs = e.octets ++ more ∧
      x.outcome more = .complete head rest := by
  rcases hb with rfl | rfl
  · obtain ⟨s, hcr, hs⟩ := h.cr_eq
    rw [feed_cons, hcr, Step.outcome] at hf
    cases bs with
    | nil => cases hf
    | cons c cs =>
      rw [feed_cons, hs] at hf
      by_cases hc : c = lf
      · subst hc
        exact ⟨.crlf, cs, rfl, hf⟩
      · rw [if_neg (by simpa using hc)] at hf
        cases hf
  · rw [feed_cons, h.lf_eq] at hf
    exact ⟨.lf, bs, rfl, hf⟩

section Runs

variable {place : List UInt8 → HeadReader} {good : UInt8 → Bool}

lemma feed_run (hstep : ∀ run b, good b → (place run).step b = .more (place (b :: run)))
    {as : List UInt8} (ha : ∀ a ∈ as, good a) (run bs : List UInt8) :
    (place run).feed (as ++ bs) = (place (as.reverse ++ run)).feed bs := by
  induction as generalizing run with
  | nil => rfl
  | cons a as ih =>
    rw [List.cons_append, feed_cons, hstep run a (ha a List.mem_cons_self), Step.outcome,
      ih fun b hb => ha b (List.mem_cons_of_mem a hb)]
    simp

lemma exists_of_feed_run (hstep : ∀ run b, good b → (place run).step b = .more (place (b :: run)))
    (run : List UInt8) (hf : (place run).feed bs = .complete head rest) :
    ∃ as b more, bs = as ++ b :: more ∧ (∀ a ∈ as, good a) ∧ good b = false ∧
      (place (as.reverse ++ run)).feed (b :: more) = .complete head rest := by
  have ha : ∀ a ∈ bs.takeWhile good, good a := fun a => List.mem_takeWhile_imp
  rw [← List.takeWhile_append_dropWhile (p := good) (l := bs), feed_run hstep ha] at hf
  cases hd : bs.dropWhile good with
  | nil =>
    rw [hd] at hf
    cases hf
  | cons b more =>
    rw [hd] at hf
    refine ⟨bs.takeWhile good, b, more, ?_, ha, ?_, hf⟩
    · rw [← hd, List.takeWhile_append_dropWhile]
    · have hne : bs.dropWhile good ≠ [] := by rw [hd]; simp
      have hhead := List.head_dropWhile_not good hne
      simpa [hd] using hhead

end Runs

lemma length_versionStem : versionStem.length = 7 := by decide +kernel

lemma not_isToken : isToken cr = false ∧ isToken lf = false ∧ isToken space = false ∧
    isToken colon = false := by
  decide +kernel

lemma ne_of_isToken (h : isToken b) : b ≠ cr ∧ b ≠ lf ∧ b ≠ space ∧ b ≠ colon := by
  obtain ⟨hcr, hlf, hspace, hcolon⟩ := not_isToken
  refine ⟨?_, ?_, ?_, ?_⟩ <;> rintro rfl <;> simp_all

lemma ends_blank : Ends ⟨.blank, m, t, fs⟩ (.more ⟨.blank, m, t, fs⟩) :=
  ⟨rfl, ⟨.blankCr, m, t, fs⟩, rfl, fun _ => rfl⟩

lemma ends_versionEnd : Ends ⟨.versionEnd, m, t, fs⟩ (.more ⟨.line, m, t, fs⟩) :=
  ⟨rfl, ⟨.versionCr, m, t, fs⟩, rfl, fun _ => rfl⟩

lemma ends_line : Ends ⟨.line, m, t, fs⟩ (.complete ⟨m, t, fs.reverse⟩) :=
  ⟨rfl, ⟨.lastCr, m, t, fs⟩, rfl, fun _ => rfl⟩

lemma ends_gap (name : List UInt8) :
    Ends ⟨.gap name, m, t, fs⟩ (.more ⟨.line, m, t, ⟨name, []⟩ :: fs⟩) :=
  ⟨rfl, ⟨.valueCr name [], m, t, fs⟩, rfl, fun _ => rfl⟩

lemma ends_value (name run : List UInt8) :
    Ends ⟨.value name run, m, t, fs⟩ (.more ⟨.line, m, t, ⟨name, run.reverse⟩ :: fs⟩) :=
  ⟨rfl, ⟨.valueCr name run, m, t, fs⟩, rfl, fun _ => rfl⟩

lemma step_blank (h : isToken b) :
    step ⟨.blank, m, t, fs⟩ b = .more ⟨.method [b], m, t, fs⟩ := by
  obtain ⟨hcr, hlf, -, -⟩ := ne_of_isToken h
  simp [step, goto, h, hcr, hlf]

lemma step_method (run : List UInt8) (b : UInt8) (h : isToken b) :
    step ⟨.method run, m, t, fs⟩ b = .more ⟨.method (b :: run), m, t, fs⟩ := by
  obtain ⟨-, -, hspace, -⟩ := ne_of_isToken h
  simp [step, goto, h, hspace]

lemma step_target (run : List UInt8) (b : UInt8) (h : isTargetOctet b) :
    step ⟨.target run, m, t, fs⟩ b = .more ⟨.target (b :: run), m, t, fs⟩ := by
  have hspace : b ≠ space := by
    rintro rfl
    exact absurd h (by decide)
  simp [step, goto, h, hspace]

lemma step_line (hl : fs.length < greatestFieldCount) (h : isToken b) :
    step ⟨.line, m, t, fs⟩ b = .more ⟨.name [b], m, t, fs⟩ := by
  obtain ⟨hcr, hlf, -, -⟩ := ne_of_isToken h
  simp [step, goto, h, hcr, hlf, hl]

lemma step_name (run : List UInt8) (b : UInt8) (h : isToken b) :
    step ⟨.name run, m, t, fs⟩ b = .more ⟨.name (b :: run), m, t, fs⟩ := by
  obtain ⟨-, -, -, hcolon⟩ := ne_of_isToken h
  simp [step, goto, h, hcolon]

def isGap (b : UInt8) : Bool := b == space || b == tab

lemma step_gap (name : List UInt8) (b : UInt8) (h : isGap b) :
    step ⟨.gap name, m, t, fs⟩ b = .more ⟨.gap name, m, t, fs⟩ := if_pos h

lemma step_gap_value {name : List UInt8} (hg : isGap b = false) (h : isValueOctet b) :
    step ⟨.gap name, m, t, fs⟩ b = .more ⟨.value name [b], m, t, fs⟩ := by
  unfold isGap at hg
  simp [step, goto, hg, h]

lemma step_value {name : List UInt8} (run : List UInt8) (b : UInt8) (h : isValueOctet b) :
    step ⟨.value name run, m, t, fs⟩ b = .more ⟨.value name (b :: run), m, t, fs⟩ := if_pos h

lemma feed_version_iff {as : List UInt8} {k : Nat} (hk : k + as.length = 7)
    (has : versionStem.drop k = as) :
    feed ⟨.version k, m, t, fs⟩ bs = .complete head rest ↔
      ∃ more, bs = as ++ more ∧ feed ⟨.version 7, m, t, fs⟩ more = .complete head rest := by
  induction as generalizing k bs with
  | nil =>
    obtain rfl : k = 7 := hk
    simp
  | cons a as ih =>
    rw [List.length_cons] at hk
    have hget : versionStem[k]? = some a := by
      rw [← List.head?_drop, has]
      rfl
    have hdrop : versionStem.drop (k + 1) = as := by
      rw [← List.tail_drop, has]
      rfl
    cases bs with
    | nil => simp [feed]
    | cons b bs =>
      have hstep : step ⟨.version k, m, t, fs⟩ b =
          if b = a then .more ⟨.version (k + 1), m, t, fs⟩ else .invalid := by
        have hoctet : isVersionOctet k b = (b == a) := by rw [isVersionOctet, hget]
        simp [step, goto, hoctet, length_versionStem, show k < 7 by omega]
      rw [feed_cons, hstep]
      by_cases hb : b = a
      · subst hb
        rw [if_pos rfl, Step.outcome, ih (by omega) hdrop]
        simp
      · rw [if_neg hb]
        simp [Step.outcome, hb]

lemma feed_minor_iff : feed ⟨.version 7, m, t, fs⟩ bs = .complete head rest ↔
    ∃ d more, bs = d :: more ∧ (d = 48 ∨ d = 49) ∧
      feed ⟨.versionEnd, m, t, fs⟩ more = .complete head rest := by
  cases bs with
  | nil => simp [feed]
  | cons b bs =>
    have hstep : step ⟨.version 7, m, t, fs⟩ b =
        if b = 48 ∨ b = 49 then .more ⟨.versionEnd, m, t, fs⟩ else .invalid := by
      simp [step, goto, isVersionOctet, length_versionStem]
    rw [feed_cons, hstep]
    by_cases hb : b = 48 ∨ b = 49
    · rw [if_pos hb]
      simp [Step.outcome, hb]
    · rw [if_neg hb]
      simp [Step.outcome, hb]

lemma feed_versionEnd_iff : feed ⟨.versionEnd, m, t, fs⟩ bs = .complete head rest ↔
    ∃ (e : LineEnd) (more : List UInt8), bs = e.octets ++ more ∧
      feed ⟨.line, m, t, fs⟩ more = .complete head rest := by
  refine ⟨fun h => ?_, ?_⟩
  · cases bs with
    | nil => cases h
    | cons b bs =>
      by_cases hb : b = cr ∨ b = lf
      · exact ends_versionEnd.exists_of_feed hb h
      · rw [not_or] at hb
        rw [feed_cons] at h
        simp [step, hb, Step.outcome] at h
  · rintro ⟨e, more, rfl, h⟩
    rwa [ends_versionEnd.feed]

lemma feed_method_iff (run : List UInt8) :
    feed ⟨.method run, m, t, fs⟩ bs = .complete head rest ↔
      ∃ as more, bs = as ++ space :: more ∧ (∀ a ∈ as, isToken a) ∧
        feed ⟨.target [], run.reverse ++ as, t, fs⟩ more = .complete head rest := by
  have hstep {run more} : feed ⟨.method run, m, t, fs⟩ (space :: more) =
      feed ⟨.target [], run.reverse, t, fs⟩ more := rfl
  refine ⟨fun h => ?_, ?_⟩
  · obtain ⟨as, b, more, rfl, ha, hb, hf⟩ := exists_of_feed_run step_method run h
    obtain rfl : b = space := by
      by_contra hne
      simp [feed_cons, step, hb, hne, Step.outcome] at hf
    rw [hstep, List.reverse_append, List.reverse_reverse] at hf
    exact ⟨as, more, rfl, ha, hf⟩
  · rintro ⟨as, more, rfl, ha, hf⟩
    rwa [feed_run step_method ha, hstep, List.reverse_append, List.reverse_reverse]

lemma feed_target_iff (run : List UInt8) :
    feed ⟨.target run, m, t, fs⟩ bs = .complete head rest ↔
      ∃ as more, bs = as ++ space :: more ∧ (∀ a ∈ as, isTargetOctet a) ∧
        run.reverse ++ as ≠ [] ∧ (Text.decode? (run.reverse ++ as)).isSome ∧
        feed ⟨.version 0, m, run.reverse ++ as, fs⟩ more = .complete head rest := by
  have hstep {run : List UInt8} : step ⟨.target run, m, t, fs⟩ space =
      if run.reverse ≠ [] ∧ (Text.decode? run.reverse).isSome then
        .more ⟨.version 0, m, run.reverse, fs⟩
      else .invalid := by
    cases h : Text.decode? run.reverse <;> cases run <;> simp_all [step]
  refine ⟨fun h => ?_, ?_⟩
  · obtain ⟨as, b, more, rfl, ha, hb, hf⟩ := exists_of_feed_run step_target run h
    obtain rfl : b = space := by
      by_contra hne
      simp [feed_cons, step, hb, hne, Step.outcome] at hf
    rw [feed_cons, hstep, List.reverse_append, List.reverse_reverse] at hf
    by_cases hd : run.reverse ++ as ≠ [] ∧ (Text.decode? (run.reverse ++ as)).isSome
    · rw [if_pos hd] at hf
      exact ⟨as, more, rfl, ha, hd.1, hd.2, hf⟩
    · rw [if_neg hd] at hf
      cases hf
  · rintro ⟨as, more, rfl, ha, hn, hd, hf⟩
    rw [feed_run step_target ha, feed_cons, hstep, List.reverse_append, List.reverse_reverse,
      if_pos ⟨hn, hd⟩]
    exact hf

lemma length_octets_pos (e : LineEnd) : 0 < e.octets.length := by
  cases e <;> simp [LineEnd.octets]

lemma feed_blank_iff : feed ⟨.blank, m, t, fs⟩ bs = .complete head rest ↔
    ∃ (blanks : List LineEnd) (b : UInt8) (more : List UInt8),
      bs = blanks.flatMap LineEnd.octets ++ b :: more ∧ isToken b ∧
        feed ⟨.method [b], m, t, fs⟩ more = .complete head rest := by
  refine ⟨fun h => ?_, ?_⟩
  · -- a blank line leaves the reader where it was, with less to read
    induction hn : bs.length using Nat.strong_induction_on generalizing bs with
    | h n ih =>
      cases bs with
      | nil => cases h
      | cons b bs =>
        by_cases hb : b = cr ∨ b = lf
        · obtain ⟨e, more, he, hf⟩ := ends_blank.exists_of_feed hb h
          have hlength := congrArg List.length he
          rw [List.length_append, hn] at hlength
          have hpos := length_octets_pos e
          obtain ⟨blanks, c, cs, rfl, hc, hf⟩ := ih more.length (by omega) hf rfl
          refine ⟨e :: blanks, c, cs, ?_, hc, hf⟩
          rw [he, List.flatMap_cons, List.append_assoc]
        · rw [not_or] at hb
          by_cases ht : isToken b
          · rw [feed_cons, step_blank ht] at h
            exact ⟨[], b, bs, rfl, ht, h⟩
          · simp [feed_cons, step, hb, ht, Step.outcome] at h
  · rintro ⟨blanks, b, more, rfl, hb, hf⟩
    induction blanks with
    | nil => rwa [List.flatMap_nil, List.nil_append, feed_cons, step_blank hb]
    | cons e blanks ih => rwa [List.flatMap_cons, List.append_assoc, ends_blank.feed]

lemma feed_start_iff : start.feed bs = .complete head rest ↔
    ∃ (q : RequestLine) (more : List UInt8), bs = q.octets ++ more ∧
      feed ⟨.line, q.method, q.target, []⟩ more = .complete head rest := by
  have hstem : versionStem.drop 0 = versionStem := rfl
  have hlength : 0 + versionStem.length = 7 := by rw [length_versionStem]
  refine ⟨fun h => ?_, ?_⟩
  · obtain ⟨blanks, b, more, rfl, hb, hmethod⟩ := feed_blank_iff.mp h
    obtain ⟨as, more, rfl, ha, htarget⟩ := (feed_method_iff [b]).mp hmethod
    obtain ⟨target, more, rfl, ht, htn, htd, hversion⟩ := (feed_target_iff []).mp htarget
    obtain ⟨more, rfl, hminor⟩ := (feed_version_iff hlength hstem).mp hversion
    obtain ⟨d, more, rfl, hd, hend⟩ := feed_minor_iff.mp hminor
    obtain ⟨e, more, rfl, hline⟩ := feed_versionEnd_iff.mp hend
    refine ⟨⟨blanks, b :: as, target, d, e, by simp, ?_, htn, ht, htd, hd⟩, more, ?_, hline⟩
    · intro c hc
      rcases List.mem_cons.mp hc with rfl | hc
      · exact hb
      · exact ha c hc
    · simp [RequestLine.octets]
  · rintro ⟨q, more, rfl, hf⟩
    obtain ⟨blanks, _ | ⟨b, as⟩, target, d, e, hmn, hm, htn, ht, htd, hd⟩ := q
    · exact absurd rfl hmn
    · have hb := hm b List.mem_cons_self
      have ha : ∀ a ∈ as, isToken a := fun a h => hm a (List.mem_cons_of_mem b h)
      have hv := (feed_version_iff hlength hstem).mpr
        ⟨_, rfl, feed_minor_iff.mpr ⟨d, _, rfl, hd, feed_versionEnd_iff.mpr ⟨e, _, rfl, hf⟩⟩⟩
      have htarget := (feed_target_iff (t := []) []).mpr ⟨target, _, rfl, ht, htn, htd, hv⟩
      have hmethod := (feed_method_iff (m := []) [b]).mpr ⟨as, _, rfl, ha, htarget⟩
      have hstart := feed_blank_iff.mpr ⟨blanks, b, _, rfl, hb, hmethod⟩
      simpa [RequestLine.octets, start] using hstart

lemma feed_name_iff (run : List UInt8) :
    feed ⟨.name run, m, t, fs⟩ bs = .complete head rest ↔
      ∃ as more, bs = as ++ colon :: more ∧ (∀ a ∈ as, isToken a) ∧
        feed ⟨.gap (run.reverse ++ as), m, t, fs⟩ more = .complete head rest := by
  have hstep {run more} : feed ⟨.name run, m, t, fs⟩ (colon :: more) =
      feed ⟨.gap run.reverse, m, t, fs⟩ more := rfl
  refine ⟨fun h => ?_, ?_⟩
  · obtain ⟨as, b, more, rfl, ha, hb, hf⟩ := exists_of_feed_run step_name run h
    obtain rfl : b = colon := by
      by_contra hne
      simp [feed_cons, step, hb, hne, Step.outcome] at hf
    rw [hstep, List.reverse_append, List.reverse_reverse] at hf
    exact ⟨as, more, rfl, ha, hf⟩
  · rintro ⟨as, more, rfl, ha, hf⟩
    rwa [feed_run step_name ha, hstep, List.reverse_append, List.reverse_reverse]

lemma feed_value_iff {name : List UInt8} (run : List UInt8) :
    feed ⟨.value name run, m, t, fs⟩ bs = .complete head rest ↔
      ∃ (as : List UInt8) (e : LineEnd) (more : List UInt8), bs = as ++ (e.octets ++ more) ∧
        (∀ a ∈ as, isValueOctet a) ∧
        feed ⟨.line, m, t, ⟨name, run.reverse ++ as⟩ :: fs⟩ more = .complete head rest := by
  refine ⟨fun h => ?_, ?_⟩
  · obtain ⟨as, b, more, rfl, ha, hb, hf⟩ := exists_of_feed_run step_value run h
    have hend : b = cr ∨ b = lf := by
      by_contra hne
      rw [not_or] at hne
      simp [feed_cons, step, endValue, hb, hne, Step.outcome] at hf
    obtain ⟨e, cs, he, hline⟩ := (ends_value name (as.reverse ++ run)).exists_of_feed hend hf
    rw [Step.outcome, List.reverse_append, List.reverse_reverse] at hline
    exact ⟨as, e, cs, by rw [he], ha, hline⟩
  · rintro ⟨as, e, more, rfl, ha, hf⟩
    rwa [feed_run step_value ha, (ends_value name _).feed, Step.outcome, List.reverse_append,
      List.reverse_reverse]

lemma feed_gap_iff (name : List UInt8) :
    feed ⟨.gap name, m, t, fs⟩ bs = .complete head rest ↔
      ∃ (gap value : List UInt8) (e : LineEnd) (more : List UInt8),
        bs = gap ++ (value ++ (e.octets ++ more)) ∧ (∀ b ∈ gap, isGap b) ∧
        (∀ b ∈ value, isValueOctet b) ∧ (∀ b ∈ value.head?, isGap b = false) ∧
        feed ⟨.line, m, t, ⟨name, value⟩ :: fs⟩ more = .complete head rest := by
  refine ⟨fun h => ?_, ?_⟩
  · obtain ⟨gap, b, more, rfl, hgap, hb, hf⟩ :=
      exists_of_feed_run (fun _ => step_gap name) [] h
    by_cases hv : isValueOctet b
    · rw [feed_cons, step_gap_value hb hv] at hf
      obtain ⟨as, e, more, rfl, ha, hline⟩ := (feed_value_iff [b]).mp hf
      refine ⟨gap, b :: as, e, more, rfl, hgap, ?_, by simpa using hb, hline⟩
      intro c hc
      rcases List.mem_cons.mp hc with rfl | hc
      · exact hv
      · exact ha c hc
    · have hend : b = cr ∨ b = lf := by
        by_contra hne
        rw [not_or] at hne
        rw [isGap] at hb
        simp [feed_cons, step, endValue, hb, hv, hne, Step.outcome] at hf
      obtain ⟨e, more, he, hline⟩ := (ends_gap name).exists_of_feed hend hf
      exact ⟨gap, [], e, more, by rw [he]; rfl, hgap, by simp, by simp, hline⟩
  · rintro ⟨gap, value, e, more, rfl, hgap, hv, hhead, hf⟩
    rw [feed_run (fun _ => step_gap name) hgap []]
    cases value with
    | nil => exact ((ends_gap name).feed e more).trans hf
    | cons b as =>
      rw [List.cons_append, feed_cons, step_gap_value (hhead b rfl) (hv b List.mem_cons_self)]
      exact (feed_value_iff [b]).mpr ⟨as, e, more, rfl, fun a ha => hv a (List.mem_cons_of_mem b ha), hf⟩

lemma isGap_iff : isGap b ↔ b = space ∨ b = tab := by
  simp [isGap]

lemma feed_line_iff : feed ⟨.line, m, t, fs⟩ bs = .complete head rest ↔
    (∃ e : LineEnd, bs = e.octets ++ rest ∧ head = ⟨m, t, fs.reverse⟩) ∨
    (fs.length < greatestFieldCount ∧ ∃ (l : FieldLine) (more : List UInt8),
      bs = l.octets ++ more ∧
        feed ⟨.line, m, t, l.field :: fs⟩ more = .complete head rest) := by
  refine ⟨fun h => ?_, ?_⟩
  · cases bs with
    | nil => cases h
    | cons b bs =>
      -- The first octet shows whether the head ends here or another field follows.
      by_cases hb : b = cr ∨ b = lf
      · obtain ⟨e, more, he, hf⟩ := ends_line.exists_of_feed hb h
        obtain ⟨rfl, rfl⟩ := Outcome.complete.inj hf
        exact .inl ⟨e, he, rfl⟩
      · have hne := not_or.mp hb
        by_cases ht : isToken b ∧ fs.length < greatestFieldCount
        · obtain ⟨ht, hl⟩ := ht
          rw [feed_cons, step_line hl ht] at h
          obtain ⟨as, more, rfl, ha, hgap⟩ := (feed_name_iff [b]).mp h
          obtain ⟨gap, value, e, more, rfl, hg, hv, hhead, hf⟩ := (feed_gap_iff _).mp hgap
          refine .inr ⟨hl, ⟨b :: as, gap, value, e, by simp, ?_, fun c hc => isGap_iff.mp (hg c hc),
            hv, ?_⟩, more, ?_, hf⟩
          · intro c hc
            rcases List.mem_cons.mp hc with rfl | hc
            · exact ht
            · exact ha c hc
          · intro c hc
            simpa [isGap] using hhead c hc
          · simp [FieldLine.octets]
        · simp [feed_cons, step, hne, ht, Step.outcome] at h
  · rintro (⟨e, rfl, rfl⟩ | ⟨hl, l, more, rfl, hf⟩)
    · exact ends_line.feed e rest
    · obtain ⟨_ | ⟨b, as⟩, gap, value, e, hnn, hn, hg, hv, hhead⟩ := l
      · exact absurd rfl hnn
      · have hgap := (feed_gap_iff (b :: as)).mpr ⟨gap, value, e, more, rfl,
          fun c hc => isGap_iff.mpr (hg c hc), hv, fun c hc => by simpa [isGap] using hhead c hc, hf⟩
        have hname := (feed_name_iff [b]).mpr
          ⟨as, _, rfl, fun a ha => hn a (List.mem_cons_of_mem b ha), hgap⟩
        have hline := step_line (m := m) (t := t) hl (hn b List.mem_cons_self)
        rw [FieldLine.octets, List.cons_append, List.cons_append, feed_cons, hline]
        simpa [Step.outcome] using hname

lemma feed_lines {lines : List FieldLine} (hl : fs.length + lines.length ≤ greatestFieldCount)
    (e : LineEnd) (bs : List UInt8) :
    feed ⟨.line, m, t, fs⟩ (lines.flatMap FieldLine.octets ++ (e.octets ++ bs)) =
      .complete ⟨m, t, fs.reverse ++ lines.map FieldLine.field⟩ bs := by
  induction lines generalizing fs with
  | nil => exact feed_line_iff.mpr (.inl ⟨e, rfl, by simp⟩)
  | cons l lines ih =>
    rw [List.length_cons] at hl
    have hrest := @ih (l.field :: fs) (by rw [List.length_cons]; omega)
    rw [List.flatMap_cons, List.append_assoc]
    refine feed_line_iff.mpr (.inr ⟨by omega, l, _, rfl, ?_⟩)
    simpa using hrest

lemma FieldLine.length_octets_pos (l : FieldLine) : 0 < l.octets.length := by
  simp only [FieldLine.octets, List.length_append, List.length_cons]
  omega

lemma exists_lines (hn : fs.length ≤ greatestFieldCount)
    (hf : feed ⟨.line, m, t, fs⟩ bs = .complete head rest) :
    ∃ (lines : List FieldLine) (e : LineEnd), fs.length + lines.length ≤ greatestFieldCount ∧
      bs = lines.flatMap FieldLine.octets ++ (e.octets ++ rest) ∧
      head = ⟨m, t, fs.reverse ++ lines.map FieldLine.field⟩ := by
  induction hk : bs.length using Nat.strong_induction_on generalizing bs fs with
  | h k ih =>
    rcases feed_line_iff.mp hf with ⟨e, rfl, rfl⟩ | ⟨hl, l, more, rfl, hline⟩
    · exact ⟨[], e, by simpa using hn, rfl, by simp⟩
    · have hpos := FieldLine.length_octets_pos l
      rw [List.length_append] at hk
      obtain ⟨lines, e, hs, rfl, rfl⟩ := ih more.length (by omega) (by simpa [Nat.succ_le_iff] using hl) hline rfl
      rw [List.length_cons] at hs
      refine ⟨l :: lines, e, by rw [List.length_cons]; omega, ?_, by simp⟩
      rw [List.flatMap_cons, List.append_assoc]

lemma feed_complete_iff : start.feed bs = .complete head rest ↔
    ∃ t : HeadText, t.lines.length ≤ greatestFieldCount ∧ bs = t.octets ++ rest ∧ head = t.head := by
  refine ⟨fun h => ?_, ?_⟩
  · obtain ⟨q, more, rfl, hline⟩ := feed_start_iff.mp h
    obtain ⟨lines, e, hl, rfl, rfl⟩ := exists_lines (Nat.zero_le _) hline
    exact ⟨⟨q, lines, e⟩, by simpa using hl, by simp [HeadText.octets], rfl⟩
  · rintro ⟨⟨q, lines, e⟩, hl, rfl, rfl⟩
    refine feed_start_iff.mpr ⟨q, lines.flatMap FieldLine.octets ++ (e.octets ++ rest), ?_, ?_⟩
    · simp [HeadText.octets]
    · exact feed_lines (by simpa using hl) e rest

end HeadReader

lemma blank_of_mem_space : ∀ b ∈ [space], b = space ∨ b = tab := by
  simp

def FieldLine.plain (name value : String) (hn : Text.encode name ≠ [])
    (ht : ∀ b ∈ Text.encode name, isToken b) (hv : ∀ b ∈ Text.encode value, isValueOctet b)
    (hh : ∀ b ∈ (Text.encode value).head?, b ≠ space ∧ b ≠ tab) : FieldLine where
  name := Text.encode name
  gap := [space]
  value := Text.encode value
  ending := .crlf
  name_ne_nil := hn
  isToken_name := ht
  gap_blank := blank_of_mem_space
  isValueOctet_value := hv
  value_head := hh

def upgradeText : HeadText where
  request :=
    { blanks := []
      method := Text.encode "GET"
      target := Text.encode "/"
      minor := 49
      ending := .crlf
      method_ne_nil := by decide +kernel
      isToken_method := by decide +kernel
      target_ne_nil := by decide +kernel
      isTargetOctet_target := by decide +kernel
      decodes_target := by decide +kernel
      minor_eq := .inr rfl }
  lines := [
    .plain "Upgrade" "WebSocket" (by decide +kernel) (by decide +kernel) (by decide +kernel)
      (by decide +kernel),
    .plain "Connection" "keep-alive, Upgrade" (by decide +kernel) (by decide +kernel)
      (by decide +kernel) (by decide +kernel),
    .plain "Sec-WebSocket-Key" "dGhlIHNhbXBsZSBub25jZQ==" (by decide +kernel)
      (by decide +kernel) (by decide +kernel) (by decide +kernel),
    .plain "sec-websocket-version" "13" (by decide +kernel) (by decide +kernel)
      (by decide +kernel) (by decide +kernel)]
  last := .crlf

end Rendezvous.Http
