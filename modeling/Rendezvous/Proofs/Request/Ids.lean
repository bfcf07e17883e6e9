import Rendezvous.Proofs.Request.Fields

/-! Numbers of peers in a request. One is given by plain digits only; null is as good as nothing, and
all else spoils the field. A spoilt sender is left out, but any other spoilt field is the fault of
the whole request. -/

namespace Rendezvous

lemma Json.scale?_eq_none {x : Binary64} {e : Int} (hx : x.isZero = false) (he : greatestPower < e) :
    scale? x e = none := by
  have hfar : ¬ e.natAbs ≤ greatestPower := by omega
  have hpos : 0 ≤ e := by omega
  rw [scale?, if_neg hfar, hx, if_neg Bool.false_ne_true, if_pos hpos]

namespace Request

open Json (Document Numeral Value natOfDigits)
open Json.Document (meaning? value?)
open Json.Tree (lastMember?)

/-- Digits without sign, point or exponent, and a number that a peer can have. -/
structure IsId (lit : Numeral) (id : PeerId) : Prop where
  unsigned : lit.negative = false
  whole : lit.fraction = [] ∧ lit.exponent = none
  value : (natOfDigits lit.whole : Int) = id
  le_greatest : id ≤ PeerId.greatest

def GivesId (ms : List (String × Document)) (field : String) (id : PeerId) : Prop :=
  ∃ lit, lastMember? field ms = some (.number lit) ∧ IsId lit id

def LacksId (ms : List (String × Document)) (field : String) : Prop :=
  lastMember? field ms = none ∨ lastMember? field ms = some .null

def SpoilsId (ms : List (String × Document)) (field : String) : Prop :=
  ¬ LacksId ms field ∧ ∀ id, ¬ GivesId ms field id

variable {text field : String} {ms : List (String × Document)} {v x : Value} {id : PeerId} {n : Int}
  {lit : Numeral} {d : Document} {e : Fault}

section Literals

lemma isValid_iff : id.isValid ↔ 0 ≤ id ∧ id ≤ PeerId.greatest := by
  simp [PeerId.isValid]

lemma IsId.isValid (h : IsId lit id) : id.isValid := by
  have hvalue := h.value
  refine isValid_iff.mpr ⟨?_, h.le_greatest⟩
  simp only [PeerId] at *
  omega

lemma isInteger_iff : lit.isInteger ↔ lit.fraction = [] ∧ lit.exponent = none := by
  simp [Numeral.isInteger]

lemma integer?_eq_some_iff (hid : id.isValid) : lit.integer? = some id ↔ IsId lit id := by
  have hrange := isValid_iff.mp hid
  unfold Numeral.integer?
  constructor
  · intro h
    split at h
    · rename_i hwhole
      dsimp only at h
      split at h
      · split at h
        · have hneg := Option.some.inj h
          simp only [PeerId] at *
          omega
        · exact absurd h (by simp)
      · rename_i hsign
        split at h
        · exact ⟨by simpa using hsign, isInteger_iff.mp hwhole, Option.some.inj h, hrange.2⟩
        · exact absurd h (by simp)
    · exact absurd h (by simp)
  · intro h
    have hle : natOfDigits lit.whole ≤ Json.greatestWord := by
      have hvalue := h.value
      simp only [Json.greatestWord, PeerId.greatest, PeerId] at *
      omega
    rw [if_pos (isInteger_iff.mpr h.whole), h.unsigned]
    simp only [Bool.false_eq_true, if_false, if_pos hle, h.value]

lemma number?_eq_integer_iff : lit.number? = some (.integer n) ↔ lit.integer? = some n := by
  unfold Numeral.number?
  cases lit.integer? with
  | some m => simp
  | none => simp

lemma value?_eq_null_iff : value? d = some .null ↔ d = .null := by
  cases d <;> simp [value?]

lemma value?_eq_integer_iff :
    value? d = some (.number (.integer n)) ↔ ∃ lit, d = .number lit ∧ lit.integer? = some n := by
  cases d <;> simp [value?, number?_eq_integer_iff]

end Literals

section Fields

lemma idField_of_lacks (hv : v.member? field = meaning? ms field) (h : LacksId ms field) :
    idField v field = .ok none := by
  unfold idField
  rw [hv, meaning?]
  rcases h with h | h <;> rw [h] <;> rfl

lemma idField_of_gives (hv : v.member? field = meaning? ms field) (h : GivesId ms field id) :
    idField v field = .ok (some id) := by
  obtain ⟨lit, hlit, hid⟩ := h
  have hvalue : value? (.number lit) = some (.number (.integer id)) :=
    value?_eq_integer_iff.mpr ⟨lit, rfl, (integer?_eq_some_iff hid.isValid).mpr hid⟩
  unfold idField
  rw [hv, meaning?, hlit, Option.bind_some, hvalue]
  exact if_pos hid.isValid

lemma idField_of_spoils (hmeans : (value? (.object ms)).isSome)
    (hv : v.member? field = meaning? ms field) (h : SpoilsId ms field) :
    ∃ x, meaning? ms field = some x ∧ idField v field = .error (.invalidId field x) := by
  obtain ⟨hlacks, hgives⟩ := h
  cases hd : lastMember? field ms with
  | none => exact absurd (Or.inl hd) hlacks
  | some d =>
    obtain ⟨x, hx, hmeaning⟩ := Document.exists_meaning hmeans hd
    refine ⟨x, hmeaning, ?_⟩
    unfold idField
    rw [hv, hmeaning]
    cases x with
    | null =>
      obtain rfl := value?_eq_null_iff.mp hx
      exact absurd (Or.inr hd) hlacks
    | number m =>
      cases m with
      | integer n =>
        obtain ⟨lit, rfl, hn⟩ := value?_eq_integer_iff.mp hx
        refine if_neg fun hvalid => hgives n ⟨lit, hd, ?_⟩
        exact (integer?_eq_some_iff hvalid).mp hn
      | real y => rfl
    | boolean b | text s | array items | object members => rfl

lemma idField_cases (hmeans : (value? (.object ms)).isSome)
    (hv : v.member? field = meaning? ms field) :
    LacksId ms field ∧ idField v field = .ok none ∨
    (∃ id, GivesId ms field id ∧ idField v field = .ok (some id)) ∨
    SpoilsId ms field ∧
      ∃ x, meaning? ms field = some x ∧ idField v field = .error (.invalidId field x) := by
  by_cases hlacks : LacksId ms field
  · exact Or.inl ⟨hlacks, idField_of_lacks hv hlacks⟩
  · by_cases hgives : ∃ id, GivesId ms field id
    · obtain ⟨id, hid⟩ := hgives
      exact Or.inr (Or.inl ⟨id, hid, idField_of_gives hv hid⟩)
    · have hspoils : SpoilsId ms field := ⟨hlacks, not_exists.mp hgives⟩
      exact Or.inr (Or.inr ⟨hspoils, idField_of_spoils hmeans hv hspoils⟩)

lemma idField_iff (hmeans : (value? (.object ms)).isSome)
    (hv : v.member? field = meaning? ms field) :
    (idField v field = .ok none ↔ LacksId ms field) ∧
    (∀ id, idField v field = .ok (some id) ↔ GivesId ms field id) ∧
    ((∃ x, meaning? ms field = some x ∧ idField v field = .error (.invalidId field x)) ↔
      SpoilsId ms field) ∧
    ((∃ e, idField v field = .error e) ↔ SpoilsId ms field) := by
  have hcases := idField_cases hmeans hv
  refine ⟨⟨fun h => ?_, idField_of_lacks hv⟩, fun id => ⟨fun h => ?_, idField_of_gives hv⟩,
    ⟨?_, idField_of_spoils hmeans hv⟩, ⟨?_, fun h => ?_⟩⟩
  · rcases hcases with ⟨hlacks, -⟩ | ⟨id, -, hid⟩ | ⟨-, x, -, hx⟩
    · exact hlacks
    · simp [hid] at h
    · simp [hx] at h
  · rcases hcases with ⟨-, hnone⟩ | ⟨id', hgives, hid⟩ | ⟨-, x, -, hx⟩
    · simp [hnone] at h
    · obtain rfl : id' = id := by simpa [hid] using h
      exact hgives
    · simp [hx] at h
  · rintro ⟨x, -, h⟩
    rcases hcases with ⟨-, hnone⟩ | ⟨id, -, hid⟩ | ⟨hspoils, -⟩
    · simp [hnone] at h
    · simp [hid] at h
    · exact hspoils
  · rintro ⟨e, h⟩
    rcases hcases with ⟨-, hnone⟩ | ⟨id, -, hid⟩ | ⟨hspoils, -⟩
    · simp [hnone] at h
    · simp [hid] at h
    · exact hspoils
  · obtain ⟨x, -, hx⟩ := idField_of_spoils hmeans hv h
    exact ⟨_, hx⟩

end Fields

section Requests

variable {recipient : PeerId} {sender : Option PeerId} {kind : Option String}

lemma idField_error (h : idField v field = .error e) : ∃ x, e = .invalidId field x := by
  unfold idField at h
  split at h
  · exact absurd h (by simp)
  · exact absurd h (by simp)
  · split at h
    · exact absurd h (by simp)
    · exact ⟨_, (Except.error.inj h).symm⟩
  · exact ⟨_, (Except.error.inj h).symm⟩

lemma lenientIdField_eq_some_iff :
    lenientIdField v field = some id ↔ idField v field = .ok (some id) := by
  unfold lenientIdField
  cases idField v field <;> simp

lemma lenientIdField_eq_none_iff :
    lenientIdField v field = none ↔ idField v field = .ok none ∨ ∃ e, idField v field = .error e := by
  unfold lenientIdField
  cases idField v field <;> simp

lemma signOut_ok_iff {id : Option PeerId} :
    ofSignal v .signOut = .ok (.signOut id) ↔ idField v "id" = .ok id := by
  unfold ofSignal
  cases idField v "id" <;> simp [Except.map]

lemma signOut_error_iff : ofSignal v .signOut = .error e ↔ idField v "id" = .error e := by
  unfold ofSignal
  cases idField v "id" <;> simp [Except.map]

lemma message_ok_iff : ofSignal v .message = .ok (.message recipient sender kind) ↔
    idField v "to" = .ok (some recipient) ∧ lenientIdField v "from" = sender ∧
      (v.member? "type").bind Json.Tree.text? = kind := by
  unfold ofSignal
  rcases idField v "to" with e | _ | id <;> simp

lemma message_missing_iff :
    ofSignal v .message = .error (.fieldMissing "to") ↔ idField v "to" = .ok none := by
  unfold ofSignal
  cases h : idField v "to" with
  | error e =>
    obtain ⟨x, rfl⟩ := idField_error h
    simp
  | ok id => cases id <;> simp

lemma message_invalid_iff :
    ofSignal v .message = .error (.invalidId "to" x) ↔ idField v "to" = .error (.invalidId "to" x) := by
  unfold ofSignal
  rcases idField v "to" with e | _ | id <;> simp

lemma parse_of_far (hread : Json.read? text = some (.object ms))
    (h : ∃ lit ∈ Document.numerals (.object ms), lit.number? = none) : parse text = .error .json := by
  obtain ⟨lit, hlit, hrange⟩ := h
  have hvalue : value? (.object ms) = none := by
    refine Option.not_isSome_iff_eq_none.mp fun hsome => ?_
    have hall := (Document.isSome_value? _).mp hsome lit hlit
    rw [hrange] at hall
    exact absurd hall (by simp)
  rw [parse, Json.parse?, hread, Option.bind_some, hvalue]

structure ReadsSignOut (text : String) (ms : List (String × Document)) : Prop where
  given : ∀ id, parse text = .ok (.signOut (some id)) ↔ GivesId ms "id" id
  lacking : parse text = .ok (.signOut none) ↔ LacksId ms "id"
  spoilt : (∃ x, meaning? ms "id" = some x ∧ parse text = .error (.invalidId "id" x)) ↔
    SpoilsId ms "id"

structure ReadsMessage (text : String) (ms : List (String × Document)) : Prop where
  given : ∀ recipient, (∃ sender kind, parse text = .ok (.message recipient sender kind)) ↔
    GivesId ms "to" recipient
  lacking : parse text = .error (.fieldMissing "to") ↔ LacksId ms "to"
  spoilt : (∃ x, meaning? ms "to" = some x ∧ parse text = .error (.invalidId "to" x)) ↔
    SpoilsId ms "to"
  senderGiven : ∀ recipient, GivesId ms "to" recipient → ∀ sender,
    (∃ kind, parse text = .ok (.message recipient (some sender) kind)) ↔ GivesId ms "from" sender
  senderLeft : ∀ recipient, GivesId ms "to" recipient →
    ((∃ kind, parse text = .ok (.message recipient none kind)) ↔
      LacksId ms "from" ∨ SpoilsId ms "from")

structure ReadsIds (text : String) (ms : List (String × Document)) : Prop where
  far : (∃ lit ∈ Document.numerals (.object ms), lit.number? = none) → parse text = .error .json
  signOut : (∀ lit ∈ Document.numerals (.object ms), lit.number?.isSome) →
    lastMember? "signal" ms = some (.text "sign_out") → ReadsSignOut text ms
  message : (∀ lit ∈ Document.numerals (.object ms), lit.number?.isSome) →
    lastMember? "signal" ms = some (.text "message") → ReadsMessage text ms

lemma readsSignOut (hobject : IsObject text ms)
    (hsig : lastMember? "signal" ms = some (.text "sign_out")) : ReadsSignOut text ms := by
  obtain ⟨v, hparse, hv⟩ := parse_signal hobject .signOut (Document.meaning?_text hsig)
  obtain ⟨hlacks, hgives, hspoils, -⟩ := idField_iff hobject.2 (hv "id")
  constructor <;> simp only [hparse, signOut_ok_iff, signOut_error_iff]
  · exact hgives
  · exact hlacks
  · exact hspoils

lemma readsMessage (hobject : IsObject text ms)
    (hsig : lastMember? "signal" ms = some (.text "message")) : ReadsMessage text ms := by
  obtain ⟨v, hparse, hv⟩ := parse_signal hobject .message (Document.meaning?_text hsig)
  obtain ⟨hlacks, hgives, hspoils, -⟩ := idField_iff hobject.2 (hv "to")
  obtain ⟨hlacks', hgives', -, hspoils'⟩ := idField_iff hobject.2 (hv "from")
  constructor <;> simp only [hparse, message_ok_iff, message_missing_iff, message_invalid_iff,
    exists_and_left, exists_eq', and_true]
  · exact hgives
  · exact hlacks
  · exact hspoils
  · intro recipient hto sender
    rw [and_iff_right ((hgives recipient).mpr hto), lenientIdField_eq_some_iff, hgives']
  · intro recipient hto
    rw [and_iff_right ((hgives recipient).mpr hto), lenientIdField_eq_none_iff, hlacks', hspoils']

theorem ids_read (hread : Json.read? text = some (.object ms)) : ReadsIds text ms where
  far := parse_of_far hread
  signOut hrange := readsSignOut ⟨hread, (Document.isSome_value? _).mpr hrange⟩
  message hrange := readsMessage ⟨hread, (Document.isSome_value? _).mpr hrange⟩

def greatestOut : String := "\x7b\"signal\":\"sign_out\",\"id\":-1,\"id\":2147483647\x7d"

def greatestOutMembers : List (String × Document) :=
  [("signal", .text "sign_out"), ("id", .number ⟨true, [1], [], none⟩),
    ("id", .number ⟨false, [2, 1, 4, 7, 4, 8, 3, 6, 4, 7], [], none⟩)]

theorem ids_read_greatestOut : Json.read? greatestOut = some (.object greatestOutMembers) ∧
    (∀ lit ∈ Document.numerals (.object greatestOutMembers), lit.number?.isSome) ∧
    lastMember? "signal" greatestOutMembers = some (.text "sign_out") ∧
    GivesId greatestOutMembers "id" 2147483647 ∧
    parse greatestOut = .ok (.signOut (some 2147483647)) := by
  have hread : Json.read? greatestOut = some (.object greatestOutMembers) := by decide +kernel
  have hrange : ∀ lit ∈ Document.numerals (.object greatestOutMembers), lit.number?.isSome :=
    (Document.isSome_value? _).mp (by decide +kernel)
  have hsig : lastMember? "signal" greatestOutMembers = some (.text "sign_out") := rfl
  have hgives : GivesId greatestOutMembers "id" 2147483647 :=
    ⟨⟨false, [2, 1, 4, 7, 4, 8, 3, 6, 4, 7], [], none⟩, rfl, rfl, ⟨rfl, rfl⟩, by decide, by decide⟩
  have hsignOut := (ids_read hread).signOut hrange hsig
  exact ⟨hread, hrange, hsig, hgives, (hsignOut.given _).mpr hgives⟩

def far : Numeral := ⟨false, [1], [], some (false, [4, 0, 0])⟩

lemma number?_far : far.number? = none := by
  have hone : Binary64.ofNat? 1 = some ⟨false, 4503599627370496, -52⟩ := by decide
  have hreal : far.real? = none := by
    simp [far, Numeral.real?, Json.takeWhole, Json.takeFraction, natOfDigits, Json.greatestWord, hone]
    exact Json.scale?_eq_none rfl (by decide)
  rw [Numeral.number?, hreal]
  rfl

lemma spoils_far (h : lastMember? field ms = some (.number far)) : SpoilsId ms field := by
  refine ⟨?_, fun id hid => ?_⟩
  · rintro (hd | hd) <;> rw [h] at hd <;> exact absurd hd (by simp)
  · obtain ⟨lit, hlit, hid⟩ := hid
    obtain rfl : far = lit := by simpa [h] using hlit
    exact absurd hid.whole.2 (by simp [far])

def farSender : String := "\x7b\"signal\":\"message\",\"to\":0,\"from\":1e400\x7d"

def farSenderMembers : List (String × Document) :=
  [("signal", .text "message"), ("to", .number ⟨false, [0], [], none⟩), ("from", .number far)]

def farOut : String := "\x7b\"signal\":\"sign_out\",\"id\":1e400\x7d"

def farOutMembers : List (String × Document) := [("signal", .text "sign_out"), ("id", .number far)]

theorem far_numbers_refused :
    (Json.read? farSender = some (.object farSenderMembers) ∧
      lastMember? "signal" farSenderMembers = some (.text "message") ∧
      GivesId farSenderMembers "to" 0 ∧ SpoilsId farSenderMembers "from" ∧
      parse farSender = .error .json) ∧
    Json.read? farOut = some (.object farOutMembers) ∧
      lastMember? "signal" farOutMembers = some (.text "sign_out") ∧
      SpoilsId farOutMembers "id" ∧ parse farOut = .error .json := by
  have hsender : Json.read? farSender = some (.object farSenderMembers) := by decide +kernel
  have hout : Json.read? farOut = some (.object farOutMembers) := by decide +kernel
  have hto : GivesId farSenderMembers "to" 0 :=
    ⟨⟨false, [0], [], none⟩, rfl, rfl, ⟨rfl, rfl⟩, by decide, by decide⟩
  have hfar : far ∈ Document.numerals (.object farSenderMembers) ∧
      far ∈ Document.numerals (.object farOutMembers) := by
    simp [farSenderMembers, farOutMembers, Document.numerals, Document.memberNumerals]
  refine ⟨⟨hsender, rfl, hto, spoils_far rfl, ?_⟩, hout, rfl, spoils_far rfl, ?_⟩
  · exact parse_of_far hsender ⟨far, hfar.1, number?_far⟩
  · exact parse_of_far hout ⟨far, hfar.2, number?_far⟩

end Requests

end Request

end Rendezvous
