import Mathlib.Data.String.Basic
import Rendezvous.Proofs.Json.RoundTrip
import Rendezvous.Reply

namespace Rendezvous.Reply

open Json (Tree Value)

variable {r q : Reply}

def ids : Reply → List PeerId
  | .signedIn id _ _ _ peers => id :: (peers.getD []).map Prod.fst
  | .signedOut => []
  | .departed id => [id]
  | .found id => id.toList

def Fits (r : Reply) : Prop := ∀ id ∈ r.ids, -0x80000000 ≤ id ∧ id ≤ 0x7FFFFFFF

lemma fits_of_valid (h : ∀ id ∈ r.ids, 0 ≤ id ∧ id ≤ PeerId.greatest) : r.Fits := by
  intro id hid
  have hvalid := h id hid
  simp only [PeerId.greatest, PeerId] at *
  omega

def receivedIce (ice : Ice) : Value :=
  .object [("password", .text ice.password), ("uri", .text ice.uri),
    ("username", .text ice.username)]

def received : Reply → Value
  | .signedIn id name again ice peers =>
    .object ((if ice.uri = "" then [] else [("ice", receivedIce ice)]) ++
      [("id", number id), ("name", .text name)] ++
      (match peers with
        | none => []
        | some ps => [("peers", .array (ps.map peerValue))]) ++
      [("repeat", .boolean again), ("request", .text "sign_in"), ("signal", .text "return"),
        ("status", .text "ok")])
  | .signedOut =>
    .object [("request", .text "sign_out"), ("signal", .text "return"), ("status", .text "ok")]
  | .departed id => .object [("id", number id), ("signal", .text "sign_out")]
  | .found none =>
    .object [("exist", .boolean false), ("request", .text "exist"), ("signal", .text "return")]
  | .found (some id) =>
    .object [("exist", .boolean true), ("id", number id), ("request", .text "exist"),
      ("signal", .text "return")]

lemma sortedItems_peers (ps : List (PeerId × String)) :
    Tree.sortedItems (ps.map peerValue) = ps.map peerValue := by
  induction ps with
  | nil => rfl
  | cons p ps ih =>
    have hpeer : Tree.sorted (peerValue p) = peerValue p := by
      simp [peerValue, number, Tree.sorted, Tree.sortedMembers, Json.putMember, -String.lt_iff_ltb]
    rw [List.map_cons, Tree.sortedItems, hpeer, ih]

lemma sorted_value : r.value.sorted = r.received := by
  cases r with
  | signedIn id name again ice peers =>
    by_cases hi : ice.uri = "" <;> cases peers <;>
      simp [value, received, answers, number, iceValue, receivedIce, Ice.isEmpty, hi, Tree.sorted,
        Tree.sortedMembers, Json.putMember, sortedItems_peers, -String.lt_iff_ltb]
  | signedOut =>
    simp [value, received, answers, Tree.sorted, Tree.sortedMembers, Json.putMember,
      -String.lt_iff_ltb]
  | departed id =>
    simp [value, received, number, Tree.sorted, Tree.sortedMembers, Json.putMember,
      -String.lt_iff_ltb]
  | found id =>
    cases id <;>
      simp [value, received, answers, number, Tree.sorted, Tree.sortedMembers, Json.putMember,
        -String.lt_iff_ltb]

lemma plain_number {depth : Nat} {id : PeerId} (h : -0x80000000 ≤ id ∧ id ≤ 0x7FFFFFFF) :
    Tree.Plain depth (number id) := by
  simp only [number, Tree.Plain, Json.leastInteger, Json.greatestWord, PeerId] at *
  omega

lemma plainItems_peers {depth : Nat} {ps : List (PeerId × String)}
    (h : ∀ p ∈ ps, -0x80000000 ≤ p.1 ∧ p.1 ≤ 0x7FFFFFFF) :
    Tree.PlainItems (depth + 1) (ps.map peerValue) := by
  induction ps with
  | nil => trivial
  | cons p ps ih =>
    rw [List.forall_mem_cons] at h
    exact ⟨⟨plain_number h.1, trivial, trivial⟩, ih h.2⟩

lemma plain_value (h : r.Fits) : r.value.Plain Json.greatestDepth := by
  cases r with
  | signedIn id name again ice peers =>
    have hid : -0x80000000 ≤ id ∧ id ≤ 0x7FFFFFFF := h id List.mem_cons_self
    cases peers with
    | none =>
      by_cases hi : ice.uri = "" <;>
        simp [value, answers, iceValue, Ice.isEmpty, hi, Tree.Plain, Tree.PlainMembers,
          Json.greatestDepth, plain_number hid]
    | some ps =>
      have hpeers : Tree.PlainItems 125 (ps.map peerValue) :=
        plainItems_peers fun p hp => h p.1 (List.mem_cons_of_mem _ (List.mem_map_of_mem hp))
      by_cases hi : ice.uri = "" <;>
        simp [value, answers, iceValue, Ice.isEmpty, hi, Tree.Plain, Tree.PlainMembers,
          Json.greatestDepth, plain_number hid, hpeers]
  | signedOut => simp [value, answers, Tree.Plain, Tree.PlainMembers, Json.greatestDepth]
  | departed id =>
    have hid : -0x80000000 ≤ id ∧ id ≤ 0x7FFFFFFF := h id List.mem_cons_self
    exact ⟨trivial, plain_number hid, trivial⟩
  | found id =>
    cases id with
    | none => simp [value, answers, Tree.Plain, Tree.PlainMembers, Json.greatestDepth]
    | some id =>
      have hid : -0x80000000 ≤ id ∧ id ≤ 0x7FFFFFFF := h id List.mem_cons_self
      exact ⟨trivial, trivial, trivial, plain_number hid, trivial⟩

lemma parse_text (h : r.Fits) : Json.parse? r.text = some r.received := by
  rw [text, Json.parse?_render (plain_value h), sorted_value]

/-- An ICE server without an address is not told. -/
def said : Reply → Reply
  | .signedIn id name again ice peers =>
    .signedIn id name again (if ice.uri = "" then .none else ice) peers
  | r => r

lemma receivedIce_injective : Function.Injective receivedIce := by
  rintro ⟨uri, username, password⟩ ⟨uri', username', password'⟩ h
  simp only [receivedIce, Tree.object.injEq, List.cons.injEq, Prod.mk.injEq, Tree.text.injEq] at h
  simp [h]

lemma peerValue_injective : Function.Injective peerValue := by
  rintro ⟨id, name⟩ ⟨id', name'⟩ h
  simpa [peerValue, number] using h

def request? : Reply → Option String
  | .signedIn .. => some "sign_in"
  | .signedOut => some "sign_out"
  | .departed _ => none
  | .found _ => some "exist"

lemma member_request : (r.received.member? "request").bind Tree.text? = r.request? := by
  cases r with
  | signedIn id name again ice peers =>
    by_cases hi : ice.uri = "" <;> cases peers <;>
      simp [received, request?, hi, Tree.member?, Tree.lastMember?, Tree.text?]
  | signedOut => simp [received, request?, Tree.member?, Tree.lastMember?, Tree.text?]
  | departed id => simp [received, request?, Tree.member?, Tree.lastMember?]
  | found id => cases id <;> simp [received, request?, Tree.member?, Tree.lastMember?, Tree.text?]

lemma said_of_received (h : r.received = q.received) : r.said = q.said := by
  have hrequest : r.request? = q.request? := by rw [← member_request, h, member_request]
  cases r <;> cases q <;> simp [request?] at hrequest
  · rename_i id name again ice peers id' name' again' ice' peers'
    have hpeers : ∀ ps ps' : List (PeerId × String), ps.map peerValue = ps'.map peerValue ↔ ps = ps' :=
      fun _ _ => (List.map_injective_iff.mpr peerValue_injective).eq_iff
    by_cases hi : ice.uri = "" <;> by_cases hi' : ice'.uri = "" <;> cases peers <;> cases peers' <;>
      simp_all [received, said, number, receivedIce_injective.eq_iff]
  · rfl
  · simp [received, number] at h
    rw [h]
  · rename_i id id'
    cases id <;> cases id' <;> simp_all [received, number]

lemma text_said : r.said.text = r.text := by
  cases r with
  | signedIn id name again ice peers =>
    by_cases hi : ice.uri = "" <;> simp [text, value, said, hi, Ice.isEmpty, Ice.none]
  | signedOut => rfl
  | departed id => rfl
  | found id => rfl

theorem text_faithful (h : r.Fits) : Json.parse? r.text = some r.received ∧
    ∀ q : Reply, q.Fits → (q.text = r.text ↔ q.said = r.said) := by
  refine ⟨parse_text h, fun q hq => ⟨fun he => ?_, fun he => ?_⟩⟩
  · have hparse := parse_text hq
    rw [he, parse_text h] at hparse
    exact said_of_received (Option.some.inj hparse).symm
  · rw [← text_said, he, text_said]

def welcome : Reply :=
  .signedIn 7 "\"\\\n\u00e9\u2603" true ⟨"turn:host", "user", "pass\tword"⟩
    (some [(3, "\"\\\n\u00e9\u2603"), (7, "\"\\\n\u00e9\u2603")])

theorem text_faithful_welcome : (welcome.Fits ∧ (found (some 7)).Fits) ∧
    Json.parse? welcome.text = some welcome.received ∧
    (found (some 7)).text ≠ welcome.text := by
  have hw : welcome.Fits := by
    unfold Fits
    decide
  have hf : (found (some 7)).Fits := by
    unfold Fits
    decide
  obtain ⟨hparse, hsame⟩ := text_faithful hw
  exact ⟨⟨hw, hf⟩, hparse, fun he => absurd ((hsame _ hf).mp he) (by decide)⟩

end Rendezvous.Reply
