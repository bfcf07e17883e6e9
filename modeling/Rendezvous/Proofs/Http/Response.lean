import Rendezvous.Proofs.Http.Reading
import Rendezvous.Proofs.Text.Split

namespace Rendezvous.Http

open HeadReader (greatestFieldCount)

variable {name v key : String}

namespace FieldLine

variable {l : FieldLine}

def lowered (l : FieldLine) : List UInt8 := l.name.map lower

def Gives (l : FieldLine) (name v : String) : Prop :=
  l.lowered = Text.encode name ∧ ∃ s, Text.decode? l.value = some s ∧ v = Text.trim s

def given? (name : String) (l : FieldLine) : Option String :=
  if l.field.hasName name then l.field.text? else none

lemma hasName_iff : l.field.hasName name = true ↔ l.lowered = Text.encode name := beq_iff_eq

lemma given?_eq_some_iff : l.given? name = some v ↔ l.Gives name v := by
  rw [given?, Gives, ← hasName_iff, Option.ite_none_right_eq_some, Field.text?,
    Option.map_eq_some_iff]
  simp only [field, eq_comm]

lemma given?_eq_none_iff : l.given? name = none ↔ ∀ v, ¬ l.Gives name v := by
  rw [Option.eq_none_iff_forall_ne_some]
  simp only [ne_eq, given?_eq_some_iff]

end FieldLine

namespace HeadText

variable {t u : HeadText}

def First (t : HeadText) (name v : String) : Prop :=
  ∃ before l after, t.lines = before ++ l :: after ∧ l.Gives name v ∧
    ∀ l' ∈ before, ∀ v', ¬ l'.Gives name v'

structure AsksUpgrade (t : HeadText) : Prop where
  get : t.request.method = Text.encode "GET"
  webSocket : ∃ l ∈ t.lines, ∃ v, l.Gives "upgrade" v ∧ equalsIgnoringCase v "websocket" = true
  connection : ∃ l ∈ t.lines, ∃ v, l.Gives "connection" v ∧ ∃ part,
    Text.IsPart ',' part v.toList ∧
      equalsIgnoringCase (Text.trim (String.ofList part)) "upgrade" = true

lemma values_head (t : HeadText) (name : String) :
    t.head.values name = t.lines.filterMap (FieldLine.given? name) := by
  rw [Head.values, head, List.filterMap_map]
  rfl

lemma mem_values_iff : v ∈ t.head.values name ↔ ∃ l ∈ t.lines, l.Gives name v := by
  rw [values_head, List.mem_filterMap]
  simp only [FieldLine.given?_eq_some_iff]

lemma value?_eq_some_iff : t.head.value? name = some v ↔ t.First name v := by
  rw [Head.value?, values_head, List.head?_filterMap, List.findSome?_eq_some_iff, First]
  simp only [FieldLine.given?_eq_some_iff, FieldLine.given?_eq_none_iff]

lemma any_values_iff {p : String → Bool} : (t.head.values name).any p = true ↔
    ∃ l ∈ t.lines, ∃ v, l.Gives name v ∧ p v = true := by
  simp only [List.any_eq_true, mem_values_iff]
  constructor
  · rintro ⟨v, ⟨l, hl, hv⟩, hp⟩
    exact ⟨l, hl, v, hv, hp⟩
  · rintro ⟨l, hl, v, hv, hp⟩
    exact ⟨v, ⟨l, hl, hv⟩, hp⟩

lemma any_elements_iff {p : String → Bool} : (Head.elements v).any p = true ↔
    ∃ part, Text.IsPart ',' part v.toList ∧ p (Text.trim (String.ofList part)) = true := by
  simp [Head.elements, Text.mem_splitAll_iff]

lemma asksUpgrade_iff :
    (t.head.isGet && t.head.namesWebSocket && t.head.asksUpgrade) = true ↔ t.AsksUpgrade := by
  rw [Bool.and_eq_true, Bool.and_eq_true, Head.isGet, beq_iff_eq, Head.namesWebSocket,
    any_values_iff, Head.asksUpgrade, any_values_iff]
  simp only [any_elements_iff]
  constructor
  · rintro ⟨⟨hget, hwebSocket⟩, hconnection⟩
    exact ⟨hget, hwebSocket, hconnection⟩
  · rintro ⟨hget, hwebSocket, hconnection⟩
    exact ⟨⟨hget, hwebSocket⟩, hconnection⟩

lemma key?_eq_some_iff : t.head.key? = some key ↔ t.First "sec-websocket-key" key :=
  value?_eq_some_iff

lemma hasVersion_iff : t.head.hasVersion = true ↔ t.First "sec-websocket-version" "13" := by
  rw [Head.hasVersion, beq_iff_eq, value?_eq_some_iff]
  rfl

lemma reaction_of_not (h : ¬ (t.AsksUpgrade ∧ ∃ k, t.First "sec-websocket-key" k)) :
    t.head.reaction = .page := by
  simp only [← asksUpgrade_iff, ← key?_eq_some_iff, not_and, not_exists] at h
  unfold Head.reaction
  split
  · next ha =>
    have hk : t.head.key? = none := Option.eq_none_iff_forall_ne_some.mpr (h ha)
    rw [hk]
  · rfl

lemma reaction_of_asks (ha : t.AsksUpgrade) (hk : t.First "sec-websocket-key" key) :
    t.head.reaction = if t.head.hasVersion then .accept key else .refuseVersion := by
  rw [Head.reaction, if_pos (asksUpgrade_iff.mpr ha), key?_eq_some_iff.mpr hk]

lemma asks_of_reaction_ne (h : t.head.reaction ≠ .page) :
    t.AsksUpgrade ∧ ∃ k, t.First "sec-websocket-key" k :=
  by_contra fun hn => h (reaction_of_not hn)

lemma reaction_accept_iff : t.head.reaction = .accept key ↔
    t.AsksUpgrade ∧ t.First "sec-websocket-key" key ∧ t.First "sec-websocket-version" "13" := by
  rw [← hasVersion_iff]
  constructor
  · intro hr
    have hne : t.head.reaction ≠ .page := by simp [hr]
    obtain ⟨ha, k, hk⟩ := asks_of_reaction_ne hne
    rw [reaction_of_asks ha hk] at hr
    split at hr
    · next hv =>
      obtain rfl := Reaction.accept.inj hr
      exact ⟨ha, hk, hv⟩
    · cases hr
  · rintro ⟨ha, hk, hv⟩
    rw [reaction_of_asks ha hk, if_pos hv]

lemma reaction_refuseVersion_iff : t.head.reaction = .refuseVersion ↔
    t.AsksUpgrade ∧ (∃ k, t.First "sec-websocket-key" k) ∧
      ¬ t.First "sec-websocket-version" "13" := by
  rw [← hasVersion_iff]
  constructor
  · intro hr
    have hne : t.head.reaction ≠ .page := by simp [hr]
    obtain ⟨ha, k, hk⟩ := asks_of_reaction_ne hne
    rw [reaction_of_asks ha hk] at hr
    split at hr
    · cases hr
    · next hv => exact ⟨ha, ⟨k, hk⟩, hv⟩
  · rintro ⟨ha, ⟨k, hk⟩, hv⟩
    rw [reaction_of_asks ha hk, if_neg hv]

lemma reaction_page_iff : t.head.reaction = .page ↔
    ¬ (t.AsksUpgrade ∧ ∃ k, t.First "sec-websocket-key" k) := by
  refine ⟨?_, reaction_of_not⟩
  rintro hr ⟨ha, k, hk⟩
  rw [reaction_of_asks ha hk] at hr
  split at hr <;> cases hr

def consulted : List String :=
  ["upgrade", "connection", "sec-websocket-key", "sec-websocket-version"]

/-- What makes no difference to the server. -/
inductive Rewrites : List FieldLine → List FieldLine → Prop where
  | rearrange {lines others : List FieldLine}
      (h : ∀ name, lines.filter (·.lowered == name) = others.filter (·.lowered == name)) :
      Rewrites lines others
  | recase {lines others : List FieldLine}
      (h : List.Forall₂ (fun l o => l.lowered = o.lowered ∧ l.value = o.value) lines others) :
      Rewrites lines others
  | insert {before after : List FieldLine} {l : FieldLine}
      (h : ∀ name ∈ consulted, l.lowered ≠ Text.encode name) :
      Rewrites (before ++ after) (before ++ l :: after)

lemma filterMap_given? (lines : List FieldLine) : lines.filterMap (FieldLine.given? name) =
    (lines.filter (·.lowered == Text.encode name)).filterMap (·.field.text?) := by
  rw [List.filterMap_filter]
  rfl

lemma Rewrites.given?_eq {lines others : List FieldLine} (h : Rewrites lines others)
    (hn : name ∈ consulted) :
    lines.filterMap (FieldLine.given? name) = others.filterMap (FieldLine.given? name) := by
  cases h with
  | rearrange h => rw [filterMap_given?, filterMap_given?, h]
  | recase h =>
    induction h with
    | nil => rfl
    | @cons l o _ _ hl _ ih =>
      have hgiven : l.given? name = o.given? name := by
        have hname : l.field.hasName name = o.field.hasName name :=
          congrArg (· == Text.encode name) hl.1
        have htext : l.field.text? = o.field.text? :=
          congrArg (fun value => (Text.decode? value).map Text.trim) hl.2
        rw [FieldLine.given?, FieldLine.given?, hname, htext]
      rw [List.filterMap_cons, List.filterMap_cons, hgiven, ih]
  | @insert _ _ l h =>
    have hnone : l.given? name = none := if_neg fun hx => h name hn (FieldLine.hasName_iff.mp hx)
    rw [List.filterMap_append, List.filterMap_append, List.filterMap_cons_none hnone]

lemma given?_eq_of_eqvGen {lines others : List FieldLine} (h : Relation.EqvGen Rewrites lines others)
    (hn : name ∈ consulted) :
    lines.filterMap (FieldLine.given? name) = others.filterMap (FieldLine.given? name) := by
  induction h with
  | rel _ _ hr => exact hr.given?_eq hn
  | refl _ => rfl
  | symm _ _ _ ih => exact ih.symm
  | trans _ _ _ _ _ ih₁ ih₂ => exact ih₁.trans ih₂

lemma reaction_congr (hm : t.request.method = u.request.method)
    (h : Relation.EqvGen Rewrites t.lines u.lines) : t.head.reaction = u.head.reaction := by
  have hvalues : ∀ name ∈ consulted, t.head.values name = u.head.values name := by
    intro name hn
    rw [values_head, values_head, given?_eq_of_eqvGen h hn]
  have hget : t.head.isGet = u.head.isGet := congrArg (· == Text.encode "GET") hm
  have hwebSocket : t.head.namesWebSocket = u.head.namesWebSocket := by
    rw [Head.namesWebSocket, hvalues _ (by simp [consulted]), Head.namesWebSocket]
  have hasks : t.head.asksUpgrade = u.head.asksUpgrade := by
    rw [Head.asksUpgrade, hvalues _ (by simp [consulted]), Head.asksUpgrade]
  have hkey : t.head.key? = u.head.key? := congrArg List.head? (hvalues _ (by simp [consulted]))
  have hversion : t.head.hasVersion = u.head.hasVersion :=
    congrArg (·.head? == some Head.protocolVersion) (hvalues _ (by simp [consulted]))
  rw [Head.reaction, hget, hwebSocket, hasks, hkey, hversion, Head.reaction]

end HeadText

namespace Handshake

open HeadReader (Undecided feed_complete_iff)

variable {t : HeadText} {all rest : List UInt8} {pieces : List (List UInt8)}

lemma undecided_of_head (ht : t.lines.length ≤ greatestFieldCount) (hp : all <+: t.octets)
    (hn : ¬ t.octets <+: all) : Undecided all := by
  have hwhole : HeadReader.start.feed t.octets = .complete t.head [] :=
    feed_complete_iff.mpr ⟨t, ht, (List.append_nil _).symm, rfl⟩
  cases hf : HeadReader.start.feed all with
  | more r => exact ⟨r, hf⟩
  | complete head tail =>
    obtain ⟨more, hmore⟩ := hp
    rw [← hmore, HeadReader.feed_append, hf] at hwhole
    obtain ⟨-, hempty⟩ := HeadReader.Outcome.complete.inj hwhole
    rw [(List.append_eq_nil_iff.mp hempty).2, List.append_nil] at hmore
    exact absurd (hmore ▸ List.prefix_rfl) hn
  | invalid =>
    rw [HeadReader.feed_invalid_mono hf hp] at hwhole
    cases hwhole

lemma Delivers.serve_head (ht : t.lines.length ≤ greatestFieldCount)
    (hd : Delivers (t.octets ++ rest) pieces) :
    (greatestHeadSize < t.octets.length ∧ serve pieces = fail .tooLarge) ∨
    ∃ r, serve pieces = .done r (Text.encode t.head.reaction.text) ∧
      r.ending = reached t.head.reaction := by
  have hhead : t.octets <+: t.octets ++ rest := List.prefix_append _ _
  rcases hd.serve_eq with ⟨hw, -⟩ | ⟨all, hp, -, hs, hj⟩
  · exact absurd (.inl (not_undecided_of_head ht hhead)) hw
  · -- what is judged holds the whole head, or is a part of it and over the limit
    by_cases hall : t.octets <+: all
    · obtain ⟨more, rfl⟩ := hall
      right
      rw [hj, judge, feed_complete_iff.mpr ⟨t, ht, rfl, rfl⟩]
      exact exists_answer t.head more
    · have hpart : all <+: t.octets :=
        (List.prefix_or_prefix_of_prefix hp hhead).resolve_right hall
      have hu := undecided_of_head ht hpart hall
      rcases hs with hn | hl
      · exact absurd hu hn
      · exact .inl ⟨hl.trans_le hpart.length_le, by rw [hj, judge_of_undecided hu]⟩

theorem head_answered (ht : t.lines.length ≤ greatestFieldCount)
    (hd : Delivers (t.octets ++ rest) pieces) :
    (greatestHeadSize < t.octets.length ∧ serve pieces = fail .tooLarge) ∨
    ∃ x : Reaction, (∃ r, serve pieces = .done r (Text.encode x.text) ∧ r.ending = reached x) ∧
      (∀ k, x = .accept k ↔ t.AsksUpgrade ∧ t.First "sec-websocket-key" k ∧
        t.First "sec-websocket-version" "13") ∧
      (x = .refuseVersion ↔ t.AsksUpgrade ∧ (∃ k, t.First "sec-websocket-key" k) ∧
        ¬ t.First "sec-websocket-version" "13") ∧
      (x = .page ↔ ¬ (t.AsksUpgrade ∧ ∃ k, t.First "sec-websocket-key" k)) ∧
      ∀ (u : HeadText) (more : List UInt8) (others : List (List UInt8)),
        u.lines.length ≤ greatestFieldCount → t.request.method = u.request.method →
        Relation.EqvGen HeadText.Rewrites t.lines u.lines → Delivers (u.octets ++ more) others →
          (greatestHeadSize < u.octets.length ∧ serve others = fail .tooLarge) ∨
          ∃ r, serve others = .done r (Text.encode x.text) ∧ r.ending = reached x := by
  rcases hd.serve_head ht with hlong | hanswered
  · exact .inl hlong
  · refine .inr ⟨t.head.reaction, hanswered, fun k => HeadText.reaction_accept_iff,
      HeadText.reaction_refuseVersion_iff, HeadText.reaction_page_iff, ?_⟩
    intro u more others hu hm hl ho
    rw [HeadText.reaction_congr hm hl]
    exact ho.serve_head hu

def hostText : HeadText where
  request := upgradeText.request
  lines := .plain "Host" "a" (by decide +kernel) (by decide +kernel) (by decide +kernel)
    (by decide +kernel) :: upgradeText.lines
  last := .lf

theorem head_answered_upgradeText :
    let response := Text.encode (Reaction.accept "dGhlIHNhbXBsZSBub25jZQ==").text
    (∃ r, serve [upgradeText.octets] = .done r response ∧ r.ending = .webSocket) ∧
    ∃ r, serve [hostText.octets] = .done r response ∧ r.ending = .webSocket := by
  intro response
  have hupgrade : upgradeText.octets.length = 143 := by decide +kernel
  have hhost : hostText.octets.length = 151 := by decide +kernel
  have hd : Delivers (upgradeText.octets ++ []) [upgradeText.octets] :=
    ⟨by simp, by simp [← List.length_pos_iff, hupgrade], by simp [hupgrade, pieceSize]⟩
  have ho : Delivers (hostText.octets ++ []) [hostText.octets] :=
    ⟨by simp, by simp [← List.length_pos_iff, hhost], by simp [hhost, pieceSize]⟩
  rcases head_answered (by decide) hd with ⟨hlong, -⟩ | ⟨x, hx, haccept, -, -, hsame⟩
  · rw [hupgrade] at hlong
    exact absurd hlong (by decide)
  · have hreaction : upgradeText.head.reaction = .accept "dGhlIHNhbXBsZSBub25jZQ==" := by
      decide +kernel
    obtain rfl := (haccept _).mpr (HeadText.reaction_accept_iff.mp hreaction)
    have hline : Relation.EqvGen HeadText.Rewrites upgradeText.lines hostText.lines :=
      .rel _ _ (@HeadText.Rewrites.insert [] _ _ (by decide +kernel))
    rcases hsame hostText [] _ (by decide) rfl hline ho with ⟨hlong, -⟩ | hr
    · rw [hhost] at hlong
      exact absurd hlong (by decide)
    · exact ⟨hx, hr⟩

def longText (n : Nat) : HeadText where
  request := upgradeText.request
  lines :=
    [{  name := [88]
        gap := [space]
        value := 97 :: List.replicate n 97
        ending := .crlf
        name_ne_nil := by simp
        isToken_name := by decide +kernel
        gap_blank := blank_of_mem_space
        isValueOctet_value := by
          intro b hb
          obtain rfl : b = 97 := List.eq_of_mem_replicate (n := n + 1) hb
          decide
        value_head := by
          rintro b ⟨⟩
          decide }]
  last := .crlf

lemma octets_longText (n : Nat) : (longText n).octets = pageRequest n := by
  have hlead : upgradeText.request.octets ++ [88, colon, space, 97] = lead := by decide +kernel
  rw [pageRequest, ← hlead]
  simp [longText, HeadText.octets, FieldLine.octets, LineEnd.octets]

theorem longText_unanswered :
    (longText 9200).lines.length ≤ greatestFieldCount ∧ ¬ (longText 9200).AsksUpgrade ∧
    (∃ pieces, Delivers (longText 9200).octets pieces) ∧
    ∀ pieces, Delivers (longText 9200).octets pieces → serve pieces = fail .tooLarge ∧
      ¬ ∃ x r, serve pieces = .done r (Text.encode (Reaction.text x)) ∧ r.ending = reached x := by
  refine ⟨Nat.le_of_ble_eq_true rfl, ?_, ⟨_, delivers_octetwise _⟩, fun pieces hd => ?_⟩
  · rintro ⟨-, ⟨l, hl, v, ⟨hname, -⟩, -⟩, -⟩
    obtain rfl := List.mem_singleton.mp hl
    revert hname
    decide +kernel
  · have hserve : serve pieces = fail .tooLarge := by
      rcases hd.serve_eq with ⟨hw, -⟩ | ⟨all, hp, hlength, -, hj⟩
      · refine absurd (.inr ?_) hw
        rw [octets_longText, length_pageRequest]
        decide
      · rw [octets_longText] at hp
        have hall : all = (pageRequest 9200).take all.length := List.prefix_iff_eq_take.mp hp
        rw [hj]
        apply judge_of_undecided
        rw [hall]
        refine undecided_take_pageRequest (hlength.trans ?_)
        decide
    refine ⟨hserve, ?_⟩
    rintro ⟨x, r, hx, hr⟩
    obtain ⟨rfl, -⟩ := Progress.done.inj (hserve.symm.trans hx)
    cases x <;> cases hr

end Handshake

end Rendezvous.Http
