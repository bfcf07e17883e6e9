import Rendezvous.Proofs.Json.Members
import Rendezvous.Request

/-! A request is made of the members that its operation reads. Nothing else in a document has a say:
neither the way in which it is written nor other members nor earlier ones of the same name. -/

namespace Rendezvous.Request

open Json (Document Value)
open Json.Document (meaning?)

structure IsObject (text : String) (ms : List (String × Document)) : Prop where
  read : Json.read? text = some (.object ms)
  means : (Document.value? (.object ms)).isSome

def Signal.Agree (ms ns : List (String × Document)) : Signal → Prop
  | .signIn => meaning? ms "name" = meaning? ns "name" ∧
      (meaning? ms "nolist").isSome = (meaning? ns "nolist").isSome
  | .signOut => meaning? ms "id" = meaning? ns "id"
  | .message => meaning? ms "to" = meaning? ns "to" ∧ meaning? ms "from" = meaning? ns "from" ∧
      meaning? ms "type" = meaning? ns "type"
  | .exist => meaning? ms "name" = meaning? ns "name"

variable {s t text : String} {ms ns : List (String × Document)} {v w : Value} {field : String}

lemma IsObject.parse (h : IsObject text ms) : ∃ v, parse text = ofValue v ∧
    ∀ key, v.member? key = meaning? ms key := by
  obtain ⟨v, hv⟩ := Option.isSome_iff_exists.mp h.means
  have hparse : Json.parse? text = some v := by rw [Json.parse?, h.read, Option.bind_some, hv]
  refine ⟨v, ?_, fun key => Document.member?_of_value? hv⟩
  rw [Request.parse, hparse]

lemma textField_congr (h : v.member? field = w.member? field) :
    textField v field = textField w field := by
  unfold textField
  rw [h]

lemma idField_congr (h : v.member? field = w.member? field) : idField v field = idField w field := by
  unfold idField
  rw [h]

lemma lenientIdField_congr (h : v.member? field = w.member? field) :
    lenientIdField v field = lenientIdField w field := by
  unfold lenientIdField
  rw [idField_congr h]

lemma readSignal_congr (h : v.member? "signal" = w.member? "signal") :
    readSignal v = readSignal w := by
  unfold readSignal
  rw [h]

lemma readSignal_ok {sig : Signal} (h : readSignal v = .ok sig) :
    v.member? "signal" = some (.text sig.name) := by
  unfold readSignal at h
  split at h
  · exact absurd h (by simp)
  · rename_i name hname
    split at h
    · exact absurd h (by simp)
    · rename_i found hfound
      obtain rfl := Except.ok.inj h
      obtain ⟨x, hx, htext⟩ := Option.bind_eq_some_iff.mp hname
      have hname : name = found.name := by
        unfold Signal.ofName? at hfound
        split at hfound <;> cases hfound <;> rfl
      rw [hx]
      cases x <;> simp_all [Json.Tree.text?]

lemma readSignal_of_member {sig : Signal} (h : v.member? "signal" = some (.text sig.name)) :
    readSignal v = .ok sig := by
  unfold readSignal
  rw [h, Option.bind_some]
  simp only [Json.Tree.text?, Signal.ofName?_name]

lemma parse_signal (h : IsObject text ms) (sig : Signal)
    (hsig : meaning? ms "signal" = some (.text sig.name)) :
    ∃ v, parse text = ofSignal v sig ∧ ∀ key, v.member? key = meaning? ms key := by
  obtain ⟨v, hv, hmember⟩ := h.parse
  have hread : readSignal v = .ok sig := readSignal_of_member (by rw [hmember, hsig])
  refine ⟨v, ?_, hmember⟩
  rw [hv, ofValue, hread]

lemma readSignal_ne_json : readSignal v ≠ .error .json := by
  unfold readSignal
  split
  · simp
  · split <;> simp

lemma idField_ne_json : idField v field ≠ .error .json := by
  unfold idField
  split
  · simp
  · simp
  · split <;> simp
  · simp

lemma ofSignal_ne_json {sig : Signal} : ofSignal v sig ≠ .error .json := by
  cases sig with
  | signIn => simp [ofSignal]
  | signOut =>
    rw [ofSignal]
    cases h : idField v "id" with
    | ok id => simp [Except.map]
    | error e =>
      intro he
      obtain rfl := Except.error.inj he
      exact idField_ne_json h
  | message =>
    rw [ofSignal]
    split
    · rename_i e h
      intro he
      obtain rfl := Except.error.inj he
      exact idField_ne_json h
    · simp
    · simp
  | exist => simp [ofSignal]

lemma ofValue_ne_json : ofValue v ≠ .error .json := by
  rw [ofValue]
  split
  · rename_i e h
    intro he
    obtain rfl := Except.error.inj he
    exact readSignal_ne_json h
  · exact ofSignal_ne_json

lemma signal_ofSignal {sig : Signal} {r : Request} (h : ofSignal v sig = .ok r) : r.signal = sig := by
  cases sig with
  | signIn | exist =>
    obtain rfl := Except.ok.inj h
    rfl
  | signOut =>
    rw [ofSignal] at h
    cases hid : idField v "id" with
    | ok id =>
      rw [hid] at h
      obtain rfl := Except.ok.inj h
      rfl
    | error e =>
      rw [hid] at h
      exact absurd h (by simp [Except.map])
  | message =>
    rw [ofSignal] at h
    split at h
    · exact absurd h (by simp)
    · exact absurd h (by simp)
    · obtain rfl := Except.ok.inj h
      rfl

lemma ofValue_ok {r : Request} (h : ofValue v = .ok r) :
    v.member? "signal" = some (.text r.signal.name) := by
  rw [ofValue] at h
  split at h
  · exact absurd h (by simp)
  · rename_i sig hread
    rw [signal_ofSignal h]
    exact readSignal_ok hread

lemma exists_isObject {r : Request} (h : parse text = .ok r) : ∃ ms, IsObject text ms := by
  unfold parse at h
  split at h
  · exact absurd h (by simp)
  · rename_i v hv
    obtain ⟨d, hread, hvalue⟩ := Option.bind_eq_some_iff.mp hv
    have hsignal := ofValue_ok h
    cases d with
    | object ms => exact ⟨ms, hread, by rw [hvalue]; rfl⟩
    | null | boolean b | text s =>
      obtain rfl := Option.some.inj hvalue
      exact absurd hsignal (by simp [Json.Tree.member?])
    | number n =>
      obtain ⟨m, -, rfl⟩ := Option.map_eq_some_iff.mp hvalue
      exact absurd hsignal (by simp [Json.Tree.member?])
    | array items =>
      rw [Document.value?] at hvalue
      obtain ⟨vs, -, rfl⟩ := Option.map_eq_some_iff.mp hvalue
      exact absurd hsignal (by simp [Json.Tree.member?])

lemma exists_fields {r : Request} (h : parse text = .ok r) : ∃ ms v, IsObject text ms ∧
    meaning? ms "signal" = some (.text r.signal.name) ∧ (∀ key, v.member? key = meaning? ms key) ∧
    ofSignal v r.signal = .ok r := by
  obtain ⟨ms, hobject⟩ := exists_isObject h
  obtain ⟨v, hv, hmember⟩ := hobject.parse
  have hsig : meaning? ms "signal" = some (.text r.signal.name) := by
    rw [← hmember]
    exact ofValue_ok (hv.symm.trans h)
  obtain ⟨w, hw, hmember'⟩ := parse_signal hobject r.signal hsig
  exact ⟨ms, w, hobject, hsig, hmember', hw.symm.trans h⟩

lemma ofSignal_congr {sig : Signal} (hv : ∀ key, v.member? key = meaning? ms key)
    (hw : ∀ key, w.member? key = meaning? ns key) (h : sig.Agree ms ns) :
    ofSignal v sig = ofSignal w sig := by
  have heq : ∀ {key}, meaning? ms key = meaning? ns key → v.member? key = w.member? key := by
    intro key hkey
    rw [hv, hkey, hw]
  cases sig with
  | signIn =>
    obtain ⟨hname, hnolist⟩ := h
    have hpresent : (v.member? "nolist").isSome = (w.member? "nolist").isSome := by
      rw [hv, hnolist, hw]
    rw [ofSignal, ofSignal, textField_congr (heq hname), hpresent]
  | signOut => rw [ofSignal, ofSignal, idField_congr (heq h)]
  | message =>
    obtain ⟨hto, hfrom, htype⟩ := h
    rw [ofSignal, ofSignal, idField_congr (heq hto), lenientIdField_congr (heq hfrom), heq htype]
  | exist => rw [ofSignal, ofSignal, textField_congr (heq h)]

theorem parse_eq_of_agree (hs : IsObject s ms) (ht : IsObject t ns)
    (hsignal : meaning? ms "signal" = meaning? ns "signal")
    (hfields : ∀ sig : Signal, meaning? ms "signal" = some (.text sig.name) → sig.Agree ms ns) :
    parse s = parse t ∧ parse s ≠ .error .json ∧
      ∀ r, parse s = .ok r → meaning? ms "signal" = some (.text r.signal.name) := by
  obtain ⟨v, hv, hmember⟩ := hs.parse
  obtain ⟨w, hw, hmember'⟩ := ht.parse
  have hsame : v.member? "signal" = w.member? "signal" := by rw [hmember, hsignal, hmember']
  rw [hv, hw]
  refine ⟨?_, ofValue_ne_json, fun r hr => hmember _ ▸ ofValue_ok hr⟩
  rw [ofValue, ofValue, ← readSignal_congr hsame]
  cases hread : readSignal v with
  | error e => rfl
  | ok sig =>
    have hsig : meaning? ms "signal" = some (.text sig.name) := hmember _ ▸ readSignal_ok hread
    exact ofSignal_congr hmember hmember' (hfields sig hsig)

def offer : String := "\x7b\"signal\":\"message\",\"to\":1,\"from\":[1],\"type\":\"offer\"\x7d"

def offerMembers : List (String × Document) :=
  [("signal", .text "message"), ("to", .number ⟨false, [1], [], none⟩),
    ("from", .array [.number ⟨false, [1], [], none⟩]), ("type", .text "offer")]

def ornateOffer : String :=
  " \x7b \"to\":\"x\", \"type\":\"o\\u0066fer\",\"from\":[ 1 ] ,\"sdp\":[[\x7b\x7d],null]," ++
  "\"s\\u0069gnal\":\"exist\",\"to\" : 1,\n\"signal\":\"message\"\x7d\t"

def ornateMembers : List (String × Document) :=
  [("to", .text "x"), ("type", .text "offer"), ("from", .array [.number ⟨false, [1], [], none⟩]),
    ("sdp", .array [.array [.object []], .null]), ("signal", .text "exist"),
    ("to", .number ⟨false, [1], [], none⟩), ("signal", .text "message")]

theorem parse_eq_of_agree_offer : (IsObject offer offerMembers ∧ IsObject ornateOffer ornateMembers ∧
    meaning? offerMembers "signal" = meaning? ornateMembers "signal" ∧
    ∀ sig : Signal, meaning? offerMembers "signal" = some (.text sig.name) →
      sig.Agree offerMembers ornateMembers) ∧
    parse offer = parse ornateOffer ∧ parse offer ≠ .error .json ∧
      ∀ r, parse offer = .ok r → meaning? offerMembers "signal" = some (.text r.signal.name) := by
  have hs : IsObject offer offerMembers := ⟨by decide +kernel, by decide +kernel⟩
  have ht : IsObject ornateOffer ornateMembers := ⟨by decide +kernel, by decide +kernel⟩
  have hsignal : meaning? offerMembers "signal" = some (.text "message") := rfl
  have hsame : meaning? ornateMembers "signal" = some (.text "message") := rfl
  have hmessage : Signal.message.Agree offerMembers ornateMembers := ⟨rfl, rfl, rfl⟩
  have hfields : ∀ sig : Signal, meaning? offerMembers "signal" = some (.text sig.name) →
      sig.Agree offerMembers ornateMembers := by
    intro sig h
    rw [hsignal] at h
    cases sig with
    | message => exact hmessage
    | signIn | signOut | exist => simp [Signal.name] at h
  have heq : meaning? offerMembers "signal" = meaning? ornateMembers "signal" := by
    rw [hsignal, hsame]
  exact ⟨⟨hs, ht, heq, hfields⟩, parse_eq_of_agree hs ht heq hfields⟩

end Rendezvous.Request
