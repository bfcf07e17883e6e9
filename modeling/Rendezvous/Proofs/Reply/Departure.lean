import Rendezvous.Proofs.Json.Reading
import Rendezvous.Reply
import Rendezvous.Request

namespace Rendezvous.Reply

open Json (Document Numeral Tree Value)

variable {x y : PeerId}

lemma departed_text : (departed x).text.toList =
    "\x7b\"signal\":\"sign_out\",\"id\":".toList ++ ((toString x).toList ++ ['\x7d']) := by
  simp [text, Json.render, value, number, Tree.write, Tree.writeMembers, Json.quote,
    Json.escapeChar, Json.Number.write]

lemma member_signal {depth : Nat} (cs : List Char) :
    Json.member (Json.document (depth + 1)) ("\"signal\":\"sign_out\"".toList ++ cs) =
      some (("signal", .text "sign_out"), cs) := by
  simp [Json.member, Json.document, Json.dropSpace, Json.isSpace, Json.textBody, Json.scalar]

lemma member_id {depth : Nat} :
    Json.member (Json.document depth) ("\"id\":".toList ++ ((toString x).toList ++ ['\x7d'])) =
      some (("id", .number (Numeral.ofInt x)), ['\x7d']) := by
  have hends : Json.Ends ['\x7d'] := by
    intro c hc
    obtain rfl := Option.some.inj hc
    decide
  simp [Json.member, Json.dropSpace, Json.isSpace, Json.textBody, Json.document_toString hends,
    -Int.toString_eq_repr]

lemma read_departed : Json.read? (departed x).text =
    some (.object [("signal", .text "sign_out"), ("id", .number (Numeral.ofInt x))]) := by
  let tail := "\"id\":".toList ++ ((toString x).toList ++ ['\x7d'])
  let cs := "\"signal\":\"sign_out\"".toList ++ ',' :: tail
  have hbound : (cs.drop 1).length = tail.length + 18 + 1 := by simp [cs]
  have hitems : Json.items (Json.member (Json.document 126)) '\x7d' cs =
      some ([("signal", .text "sign_out"), ("id", .number (Numeral.ofInt x))], []) := by
    calc Json.items (Json.member (Json.document 126)) '\x7d' cs
        = Json.itemsFrom (Json.member (Json.document 126)) '\x7d' [] ((cs.drop 1).length + 1) cs :=
          Json.items_eq_itemsFrom (by decide) (by decide)
      _ = Json.itemsFrom (Json.member (Json.document 126)) '\x7d' [("signal", .text "sign_out")]
            (cs.drop 1).length tail := Json.itemsFrom_comma (member_signal _) (by decide)
      _ = some ([("signal", .text "sign_out"), ("id", .number (Numeral.ofInt x))], []) := by
          rw [hbound]
          exact Json.itemsFrom_close member_id (by decide)
  have hdoc : Json.document Json.greatestDepth (departed x).text.toList =
      some (.object [("signal", .text "sign_out"), ("id", .number (Numeral.ofInt x))], []) := by
    rw [departed_text]
    change (Json.items (Json.member (Json.document 126)) '\x7d' cs).map _ = _
    rw [hitems]
    rfl
  rw [Json.read?, hdoc]
  rfl

lemma departed_injective (h : (departed x).text = (departed y).text) : x = y := by
  have hread := congrArg Json.read? h
  rw [read_departed, read_departed] at hread
  have hnum : Numeral.ofInt x = Numeral.ofInt y := by
    simpa using hread
  exact Json.ofInt_injective hnum

lemma write_answer (request : String) (members : List (String × Value)) : ∃ rest,
    (Tree.object (answers request ++ members) : Value).write =
      "\x7b\"signal\":\"return\"".toList ++ rest := by
  refine ⟨',' :: Tree.writeMembers (("request", .text request) :: members), ?_⟩
  simp [answers, Tree.write, Tree.writeMembers, Json.quote, Json.escapeChar]

def Returns (r : Reply) (request : String) : Prop :=
  ∃ members, r.value = .object (answers request ++ members)

lemma returns_signedIn {id : PeerId} {name : String} {again : Bool} {ice : Ice}
    {peers : Option (List (PeerId × String))} :
    (signedIn id name again ice peers).Returns "sign_in" :=
  ⟨_, congrArg Tree.object ((List.append_assoc _ _ _).trans (List.append_assoc _ _ _))⟩

lemma returns_signedOut : signedOut.Returns "sign_out" := ⟨_, rfl⟩

lemma returns_found {id : Option PeerId} : (found id).Returns "exist" :=
  ⟨_, congrArg Tree.object (List.append_assoc _ _ _)⟩

lemma Returns.text_ne {request : String} {r : Reply} (h : r.Returns request) :
    r.text ≠ (departed x).text := by
  intro he
  obtain ⟨members, hr⟩ := h
  obtain ⟨rest, hrest⟩ := write_answer request members
  have hchars := congrArg String.toList he
  rw [departed_text, text, Json.render, String.toList_ofList, hr, hrest] at hchars
  simp at hchars

lemma parse_departed_eq : Request.parse (departed x).text =
    match (Numeral.ofInt x).number? with
    | none => .error .json
    | some n =>
      (Request.idField (.object [("id", .number n), ("signal", .text "sign_out")]) "id").map
        .signOut := by
  rw [Request.parse, Json.parse?, read_departed]
  cases h : (Numeral.ofInt x).number? with
  | none => simp [Document.value?, Document.members?, h]
  | some n =>
    have hvalue : Document.value? (.object [("signal", .text "sign_out"),
        ("id", .number (Numeral.ofInt x))]) =
          some (.object [("id", .number n), ("signal", .text "sign_out")]) := by
      have hlt : "id" < "signal" := by decide
      simp only [Document.value?, Document.members?, h, Option.map_some, List.foldl_cons,
        List.foldl_nil, Json.putMember, if_pos hlt]
    rw [Option.bind_some, hvalue]
    rfl

lemma parse_departed_ne_message {recipient : PeerId} {sender : Option PeerId} {kind : Option String} :
    Request.parse (departed x).text ≠ .ok (.message recipient sender kind) := by
  rw [parse_departed_eq]
  cases (Numeral.ofInt x).number? with
  | none => simp
  | some n =>
    dsimp only
    cases Request.idField (.object [("id", .number n), ("signal", .text "sign_out")]) "id" <;>
      exact nofun

end Rendezvous.Reply
