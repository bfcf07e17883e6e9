import Rendezvous.Proofs.Ice
import Rendezvous.Proofs.Room.Welcome
import Rendezvous.Proofs.Settings.Layering
import Rendezvous.Server

/-! Which address of an ICE server clients are told. A descriptor has to have a scheme, on the command
line and in the file; an address that the file sets as a member of its own is taken as it is. -/

namespace Rendezvous

namespace Ice

variable {ws : List (List Char)} {ice : Ice} {d : String}

def Acceptable (uri : String) : Prop := uri = "" ∨ HasScheme uri.toList

lemma Describes.acceptable (h : Describes ws ice) : Acceptable ice.uri := by
  cases h with
  | nothing => exact .inl rfl
  | address huri =>
    right
    rwa [String.toList_ofList]
  | login huri _ =>
    right
    rwa [String.toList_ofList]

lemma acceptable_of_ofDescriptor (h : ofDescriptor d = .ok ice) : Acceptable ice.uri :=
  (ofWords_ok_iff.mp h).acceptable

end Ice

namespace Room

open Json (Value)

variable {ice : Ice} {es : List Event} {v : ConnectionId} {document name : String} {unlisted : Bool}
  {like : Option Value → Prop}

/-- Whatever has happened before, a client that signs in is answered with such an `ice` member. -/
def Announces (ice : Ice) (like : Option Value → Prop) : Prop :=
  ∀ es v document name unlisted, Finishes ice (es ++ [.text v document]) →
    Request.parse document = .ok (.signIn name unlisted) →
    ∀ (σ : Type) (o : Outlet σ) (s : σ), ∃ first rest doc,
      ((after ice es).act ice o s (.text v document)).2.1 = first :: rest ∧ first.receiver = v ∧
        Json.parse? first.letter.text = some doc ∧ like (doc.member? "ice")

def announcement (ice : Ice) : Option Value :=
  if ice.uri = "" then none else some (Reply.receivedIce ice)

lemma announced (h : Finishes ice (es ++ [.text v document]))
    (hparse : Request.parse document = .ok (.signIn name unlisted)) {σ : Type} (o : Outlet σ) (s : σ) :
    ∃ first rest doc, ((after ice es).act ice o s (.text v document)).2.1 = first :: rest ∧
      first.receiver = v ∧ Json.parse? first.letter.text = some doc ∧
      doc.member? "ice" = announcement ice := by
  obtain ⟨taken, rest, hsent, -⟩ := act_greets ice o (after ice es) s v hparse
  have hbefore : (after ice es).peers.Consistent := h.of_concat.consistent
  exact ⟨_, rest, _, hsent, rfl,
    Reply.parse_text (fits_greeting hbefore.toLinked ice v name unlisted),
    (greets_greeting hbefore ice v name unlisted).server⟩

def firstVisitor : String := "\x7b\"signal\":\"sign_in\",\"name\":\"a\"\x7d"

lemma finishes_firstVisitor : Finishes ice ([] ++ [.text 1 firstVisitor]) := by
  apply finishes_of_signIns_le
  exact Nat.le_trans List.countP_le_length (by decide)

lemma announces_iff : Announces ice like ↔ like (announcement ice) := by
  constructor
  · intro h
    obtain ⟨first, rest, doc, hsent, -, hdoc, hlike⟩ :=
      h [] 1 firstVisitor "a" false finishes_firstVisitor parse_visits.1 _
        (Exchange.outlet .empty) {}
    have hfinishes : Finishes ice ([] ++ [.text 1 firstVisitor]) := finishes_firstVisitor
    obtain ⟨first', rest', doc', hsent', -, hdoc', hmember⟩ :=
      announced hfinishes parse_visits.1 (Exchange.outlet .empty) {}
    obtain ⟨rfl, -⟩ := List.cons.inj (hsent.symm.trans hsent')
    obtain rfl := Option.some.inj (hdoc.symm.trans hdoc')
    rwa [hmember] at hlike
  · intro h es v document name unlisted hfinishes hparse σ o s
    obtain ⟨first, rest, doc, hsent, hv, hdoc, hmember⟩ := announced hfinishes hparse o s
    exact ⟨first, rest, doc, hsent, hv, hdoc, hmember ▸ h⟩

def TellsScheme (block : Option Value) : Prop :=
  ∀ b ∈ block, ∃ uri, b.member? "uri" = some (.text uri) ∧ Ice.HasScheme uri.toList

lemma member_uri (ice : Ice) : (Reply.receivedIce ice).member? "uri" = some (.text ice.uri) := by
  simp [Reply.receivedIce, Json.Tree.member?, Json.Tree.lastMember?]

lemma tellsScheme_announcement : TellsScheme (announcement ice) ↔ Ice.Acceptable ice.uri := by
  rw [announcement, Ice.Acceptable]
  split
  · rename_i hnone
    exact ⟨fun _ => .inl hnone, fun _ b hb => absurd hb (by simp)⟩
  · rename_i hsome
    constructor
    · intro h
      obtain ⟨uri, huri, hscheme⟩ := h _ rfl
      rw [member_uri, Option.some.injEq, Json.Tree.text.injEq] at huri
      exact .inr (huri ▸ hscheme)
    · rintro (hnone | hscheme)
      · exact absurd hnone hsome
      · rintro b ⟨⟩
        exact ⟨ice.uri, member_uri ice, hscheme⟩

end Room

namespace Settings

variable {load : String → Option String} {a : CommandLine.Arguments} {d : Document} {s : Settings}
  {old new : Ice}

lemma resolve_text {path text : String} (hconfig : a.config = some path)
    (hd : Document.read? text = some d) : resolve (fun _ => some text) a = layers a d :=
  resolve_eq_layers hconfig rfl hd

lemma IceChosen.acceptable_iff (h : IceChosen d old new) (hold : Ice.Acceptable old.uri)
    (hmembers : d.iceDescriptor.isSome → d.iceUri = none) :
    Ice.Acceptable new.uri ↔ ∀ uri ∈ d.iceUri, Ice.Acceptable uri := by
  rw [IceChosen] at h
  cases hd : d.iceDescriptor with
  | some t =>
    rw [hd] at h
    have hnone : d.iceUri = none := hmembers (by rw [hd]; rfl)
    simp [hnone, Ice.acceptable_of_ofDescriptor h]
  | none =>
    rw [hd] at h
    rw [h.1]
    cases d.iceUri with
    | none => simpa using hold
    | some uri => simp

lemma acceptable_iff (h : resolve load a = .ok s) :
    Ice.Acceptable s.ice.uri ↔ ∀ uri ∈ (fileSays load a).iceUri, Ice.Acceptable uri := by
  obtain ⟨s₀, hs₀, hs⟩ := bind_ok_iff.mp (layers_of_resolve h)
  obtain ⟨l, i, c, -, hi, -, rfl⟩ := applyArguments_ok_iff.mp hs₀
  obtain ⟨x, ping, pong, j, l', f, c', -, -, -, ⟨hj, hmembers⟩, -, -, -, rfl⟩ :=
    applyDocument_ok_iff.mp hs
  have hcommand : Ice.Acceptable i.uri := by
    cases hice : a.ice with
    | none =>
      rw [hice] at hi
      obtain rfl : i = standard.ice := hi
      exact .inl rfl
    | some t =>
      rw [hice] at hi
      exact Ice.acceptable_of_ofDescriptor hi
  exact hj.acceptable_iff hcommand fun hd => (hmembers hd).1

theorem ice_told_iff (h : resolve load a = .ok s) :
    (s.ice.uri = "" ∨ Ice.HasScheme s.ice.uri.toList ↔
      ∀ uri ∈ (fileSays load a).iceUri, uri = "" ∨ Ice.HasScheme uri.toList) ∧
    (Room.Announces s.terms.ice Room.TellsScheme ↔
      ∀ uri ∈ (fileSays load a).iceUri, uri = "" ∨ Ice.HasScheme uri.toList) ∧
    (Room.Announces s.terms.ice (· = none) ↔ s.ice.uri = "") := by
  have hterms : s.terms.ice = s.ice := rfl
  have hsettings := acceptable_iff h
  refine ⟨hsettings, ?_, ?_⟩
  · rw [hterms, Room.announces_iff, Room.tellsScheme_announcement]
    exact hsettings
  · rw [hterms, Room.announces_iff, Room.announcement]
    split <;> simp_all

theorem ice_told_iff_ownPassword :
    let load := fun _ => some "[ice]\npassword = \"c\""
    let a : CommandLine.Arguments :=
      { ice := some "turn:t.example.org a:b", config := some "funkstelle.toml" }
    ∃ s, resolve load a = .ok s ∧ s.ice = ⟨"turn:t.example.org", "a", "c"⟩ ∧
      Room.Announces s.terms.ice Room.TellsScheme := by
  intro load a
  have hread : Document.read? "[ice]\npassword = \"c\"" = some { icePassword := some "c" } := by
    decide +kernel
  have htaken : resolve load a =
      .ok { standard with ice := ⟨"turn:t.example.org", "a", "c"⟩ } := by
    rw [resolve_text rfl hread]
    decide +kernel
  have hfile : fileSays load a = { icePassword := some "c" } := by
    change (Document.read? "[ice]\npassword = \"c\"").getD {} = _
    rw [hread]
    rfl
  refine ⟨_, htaken, rfl, (ice_told_iff htaken).2.1.mpr fun uri huri => ?_⟩
  rw [hfile] at huri
  cases huri

theorem address_unchecked :
    let a : CommandLine.Arguments := { config := some "funkstelle.toml" }
    resolve (fun _ => some "[ice]\ndeskriptor = \"http://x\"") a = .error (.ice false "http://x" .scheme) ∧
    ∃ s, resolve (fun _ => some "[ice]\nuri = \"http://x\"") a = .ok s ∧ s.ice.uri = "http://x" ∧
      ¬ (s.ice.uri = "" ∨ Ice.HasScheme s.ice.uri.toList) ∧
      ¬ Room.Announces s.terms.ice Room.TellsScheme := by
  intro a
  have hdescriptor : Document.read? "[ice]\ndeskriptor = \"http://x\"" =
      some { iceDescriptor := some "http://x" } := by
    decide +kernel
  have hmember : Document.read? "[ice]\nuri = \"http://x\"" = some { iceUri := some "http://x" } := by
    decide +kernel
  have htaken : resolve (fun _ => some "[ice]\nuri = \"http://x\"") a =
      .ok { standard with ice := ⟨"http://x", "", ""⟩ } := by
    rw [resolve_text rfl hmember]
    rfl
  have hunacceptable : ¬ Ice.Acceptable "http://x" := by
    rintro (h | h)
    · exact absurd h (by decide)
    · exact absurd (Ice.hasScheme_iff.mpr h) (by decide)
  refine ⟨?_, _, htaken, rfl, hunacceptable, ?_⟩
  · rw [resolve_text rfl hdescriptor]
    decide +kernel
  · rw [Room.announces_iff, Room.tellsScheme_announcement]
    exact hunacceptable

end Settings

end Rendezvous
