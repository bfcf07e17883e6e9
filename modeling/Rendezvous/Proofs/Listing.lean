import Mathlib.Algebra.Group.Action.Defs
import Mathlib.Algebra.GroupWithZero.Nat
import Mathlib.Algebra.Order.BigOperators.Group.List
import Mathlib.Data.String.Basic
import Rendezvous.Proofs.Json.RoundTrip
import Rendezvous.Proofs.Peer.Consistency
import Rendezvous.Proofs.Text.Split
import Rendezvous.Room.Delivery

/-! Who reads the list of peers in the log. It has one line for each of them as long as no name has a
line feed; names go into it as clients send them, and a client may send any name. -/

namespace Rendezvous

namespace Listing

variable {n : Nat} {z : Int} {p : Peer} {isOpen : Bool} {connections : Nat}
  {entries : List (Peer × Bool)}

def lines (text : String) : List (List Char) := Text.splitAll '\n' text.toList

structure Shows (e : Peer × Bool) (l : List Char) : Prop where
  opening : ("  " ++ mark e.2).toList <+: l
  closing : ("[" ++ e.1.connection.text ++ "]").toList <:+ l

structure OneLineEach (entries : List (Peer × Bool)) (text : String) : Prop where
  length : (lines text).length = 1 + entries.length
  each : ∀ k e, entries[k]? = some e → ∃ l, (lines text)[k + 1]? = some l ∧ Shows e l

def row (p : Peer) (isOpen : Bool) : List Char :=
  ("  " ++ mark isOpen ++ " " ++ p.id.text ++ " ").toList ++
    (p.name.toList ++ (" [" ++ p.connection.text ++ "]").toList)

lemma toList_line : (line p isOpen).toList = '\n' :: row p isOpen := by
  simp [line, row]

lemma shows_row : Shows (p, isOpen) (row p isOpen) where
  opening := by simp [row]
  closing := by
    refine ⟨("  " ++ mark isOpen ++ " " ++ p.id.text ++ " ").toList ++ (p.name.toList ++ [' ']), ?_⟩
    simp [row]

lemma not_mem_toDigits : '\n' ∉ Nat.toDigits 10 n := by
  intro h
  exact absurd (Json.isDecimal_of_mem_toDigits h) (by decide)

lemma not_mem_toString_nat : '\n' ∉ (toString n).toList := by
  simpa [Nat.toString_eq_repr, Nat.repr] using not_mem_toDigits

lemma not_mem_toString_int : '\n' ∉ (toString z).toList := by
  rcases le_or_gt 0 z with hz | hz
  · rw [Json.toString_of_nonneg hz]
    exact not_mem_toDigits
  · rw [Json.toString_of_neg hz]
    simpa using not_mem_toDigits

lemma not_mem_heading : '\n' ∉ (heading n connections).toList := by
  simp only [heading, String.toList_append, List.mem_append, not_or]
  refine ⟨⟨⟨⟨not_mem_toString_nat, by decide⟩, not_mem_toString_nat⟩, by decide⟩, ?_⟩
  split <;> decide

lemma count_row : (row p isOpen).count '\n' = p.name.toList.count '\n' := by
  have hfront : '\n' ∉ ("  " ++ mark isOpen ++ " " ++ p.id.text ++ " ").toList := by
    simp only [String.toList_append, List.mem_append, not_or]
    refine ⟨⟨⟨⟨by decide, ?_⟩, by decide⟩, not_mem_toString_int⟩, by decide⟩
    cases isOpen <;> decide
  have hback : '\n' ∉ (" [" ++ p.connection.text ++ "]").toList := by
    simp only [String.toList_append, ConnectionId.text, List.mem_append, not_or]
    exact ⟨⟨by decide, by decide, not_mem_toString_nat⟩, by decide⟩
  rw [row, List.count_append, List.count_append, List.count_eq_zero.mpr hfront,
    List.count_eq_zero.mpr hback]
  omega

lemma lines_render : lines (render connections entries) =
    (heading entries.length connections).toList ::
      entries.flatMap fun e => Text.splitAll '\n' (row e.1 e.2) := by
  have htext : (render connections entries).toList = (heading entries.length connections).toList ++
      entries.flatMap fun e => '\n' :: row e.1 e.2 := by
    simp [render, String.toList_join, List.flatMap_map, toList_line]
  rw [lines, htext, Text.splitAll_append_flatMap, Text.splitAll_of_not_mem not_mem_heading,
    List.singleton_append]

lemma length_lines_render : (lines (render connections entries)).length =
    1 + entries.length + (entries.map fun e => e.1.name.toList.count '\n').sum := by
  rw [lines_render, List.length_cons, List.length_flatMap]
  simp only [Text.length_splitAll, count_row]
  rw [List.sum_map_add, List.map_const', List.sum_replicate, smul_eq_mul]
  omega

lemma oneLineEach_render_iff : OneLineEach entries (render connections entries) ↔
    ∀ e ∈ entries, '\n' ∉ e.1.name.toList := by
  constructor
  · intro h e he
    have hsum : (entries.map fun e => e.1.name.toList.count '\n').sum = 0 := by
      have hlength := h.length
      rw [length_lines_render] at hlength
      omega
    exact List.count_eq_zero.mp (List.sum_eq_zero_iff.mp hsum _ (List.mem_map_of_mem he))
  · intro h
    have hrow {e : Peer × Bool} (he : e ∈ entries) :
        Text.splitAll '\n' (row e.1 e.2) = [row e.1 e.2] := by
      apply Text.splitAll_of_not_mem
      rw [← List.count_eq_zero, count_row, List.count_eq_zero]
      exact h e he
    have hlines : lines (render connections entries) =
        (heading entries.length connections).toList :: entries.map fun e => row e.1 e.2 := by
      rw [lines_render, List.flatMap_congr fun e he => hrow he, List.map_eq_flatMap]
    refine ⟨by rw [hlines, List.length_cons, List.length_map, Nat.add_comm], fun k e hk => ?_⟩
    refine ⟨row e.1 e.2, ?_, shows_row⟩
    rw [hlines, List.getElem?_cons_succ, List.getElem?_map, hk]
    rfl

end Listing

namespace Outlet

variable {σ : Type} (o : Outlet σ)

lemma marks_fst (peers : List Peer) (s : σ) : (o.marks peers s).1.map Prod.fst = peers := by
  induction peers generalizing s with
  | nil => rfl
  | cons p ps ih => exact congrArg (p :: ·) (ih _)

end Outlet

namespace Request

lemma exists_parse_signIn (name : String) :
    ∃ document, parse document = .ok (.signIn name false) := by
  let v : Json.Value := .object [("name", .text name), ("signal", .text "sign_in")]
  have hplain : v.Plain Json.greatestDepth := ⟨trivial, trivial, trivial⟩
  have hsorted : v.sorted = v := by
    simp [v, Json.Tree.sorted, Json.Tree.sortedMembers, Json.putMember, -String.lt_iff_ltb]
  refine ⟨Json.render v, ?_⟩
  rw [parse, Json.parse?_render hplain, hsorted]
  rfl

end Request

namespace Room

variable {ice : Ice} {room : Room} {v : ConnectionId} {document name : String} {unlisted : Bool}

lemma listing_of_signIn (h : Request.parse document = .ok (.signIn name unlisted)) :
    ∃ peers, (room.step ice (.text v document)).outbox.listing = some peers ∧
      ∃ p ∈ peers, p.connection = v ∧ p.name = name := by
  let before := (room.replace v).room.peers
  refine ⟨(before.signIn name v).2.peers, ?_, ⟨before.freshId, name, v⟩, ?_, rfl, rfl⟩
  · simp only [step, receive, h]
    rfl
  · rw [PeerTable.mem_peers]
    exact ⟨before.freshId, Std.TreeMap.getElem?_insert_self⟩

end Room

namespace Listing

theorem line_of_each_peer {σ : Type} (o : Outlet σ) (peers : List Peer) (s : σ) :
    let answers := (o.marks peers (o.count s).2).1
    let text := render (o.count s).1 answers
    (answers.map Prod.fst = peers ∧
      (lines text).length =
        1 + peers.length + (peers.map fun p => p.name.toList.count '\n').sum ∧
      (OneLineEach answers text ↔ ∀ p ∈ peers, '\n' ∉ p.name.toList)) ∧
    ∀ name, ∃ document, ∀ ice room v, ∃ listed,
      (Room.step ice room (.text v document)).outbox.listing = some listed ∧
        ∃ p ∈ listed, p.connection = v ∧ p.name = name := by
  intro answers text
  have hfst : answers.map Prod.fst = peers := o.marks_fst peers _
  refine ⟨⟨hfst, ?_, ?_⟩, fun name => ?_⟩
  · rw [length_lines_render, ← hfst, List.length_map, List.map_map]
    rfl
  · have hnames : (∀ e ∈ answers, '\n' ∉ e.1.name.toList) ↔ ∀ p ∈ peers, '\n' ∉ p.name.toList := by
      rw [← hfst, List.forall_mem_map]
    exact oneLineEach_render_iff.trans hnames
  · obtain ⟨document, hparse⟩ := Request.exists_parse_signIn name
    exact ⟨document, fun _ _ _ => Room.listing_of_signIn hparse⟩

def forgery : String := "a [conn:1]\n  + 1 b"

def signInForgery : String := "\x7b\"signal\":\"sign_in\",\"name\":\"a [conn:1]\\n  + 1 b\",\"nolist\":true\x7d"

theorem line_of_each_peer_forged :
    Request.parse signInForgery = .ok (.signIn forgery true) ∧
    (Room.empty.step .none (.text 1 signInForgery)).outbox.listing = some [⟨0, forgery, 1⟩] ∧
    (lines (render 1 [(⟨0, forgery, 1⟩, true)])).map String.ofList =
      ["1 Peers, 1 Verbindungen", "  + 0 a [conn:1]", "  + 1 b [conn:1]"] ∧
    ¬ OneLineEach [(⟨0, forgery, 1⟩, true)] (render 1 [(⟨0, forgery, 1⟩, true)]) := by
  have hparse : Request.parse signInForgery = .ok (.signIn forgery true) := by decide +kernel
  refine ⟨hparse, ?_, ?_, ?_⟩
  · decide +kernel
  · decide +kernel
  · intro h
    exact absurd h.length (by decide +kernel)

end Listing

end Rendezvous
