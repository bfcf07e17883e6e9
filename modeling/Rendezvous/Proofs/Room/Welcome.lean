import Rendezvous.Proofs.Reply.Faithful
import Rendezvous.Proofs.Request.Names
import Rendezvous.Proofs.Room.Isolation
import Rendezvous.Proofs.Room.Offer

/-! What a client reads that signs in: whoever had the name before the step, apart from the client
itself, whoever is there after it, and the departure of the client's earlier peer. -/

namespace Rendezvous

namespace Reply

open Json (Value)

variable {x : PeerId} {p : Peer} {again : Bool} {ice : Ice} {listed : Option (List Peer)}

structure Greets (doc : Value) (p : Peer) (again : Bool) (ice : Ice) (listed : Option (List Peer)) :
    Prop where
  signal : doc.member? "signal" = some (.text "return")
  request : doc.member? "request" = some (.text "sign_in")
  status : doc.member? "status" = some (.text "ok")
  id : doc.member? "id" = some (number p.id)
  name : doc.member? "name" = some (.text p.name)
  repeated : doc.member? "repeat" = some (.boolean again)
  server : doc.member? "ice" = if ice.uri = "" then none else some (receivedIce ice)
  peers : doc.member? "peers" =
    listed.map fun ps => .array (ps.map fun q => peerValue (q.id, q.name))

lemma greets_signedIn : Greets (signedIn p.id p.name again ice
    (listed.map fun ps => ps.map fun q => (q.id, q.name))).received p again ice listed := by
  by_cases hi : ice.uri = "" <;> cases listed <;> constructor <;>
    simp [received, hi, Json.Tree.member?, Json.Tree.lastMember?]

def IsReturn (text : String) : Prop :=
  ∃ doc, Json.parse? text = some doc ∧ doc.member? "signal" = some (.text "return")

lemma not_isReturn_departed (hx : 0 ≤ x ∧ x ≤ PeerId.greatest) : ¬ IsReturn (departed x).text := by
  rintro ⟨doc, hdoc, hsignal⟩
  rw [parse_text (fits_of_valid (r := departed x) (by simpa [ids] using hx))] at hdoc
  obtain rfl := Option.some.inj hdoc
  exact absurd hsignal (by simp [received, Json.Tree.member?, Json.Tree.lastMember?])

end Reply

namespace PeerTable

variable {t : PeerTable} {v : ConnectionId} {name : String} {p : Peer}

lemma Consistent.mem_of_peerAt? (h : t.Consistent) (hp : t.peerAt? v = some p) :
    p ∈ t.peers ∧ p.connection = v := by
  obtain ⟨id, hv, hid⟩ := Option.bind_eq_some_iff.mp hp
  obtain ⟨q, hq, hqv⟩ := h.seated hv
  obtain rfl : q = p := Option.some.inj (hq.symm.trans hid)
  exact ⟨mem_peers.mpr ⟨id, hid⟩, hqv⟩

lemma Consistent.hasName_signOut (h : t.Consistent) : (t.signOut v).2.hasName name =
    decide (∃ q ∈ t.peers, q.connection ≠ v ∧ q.name = name) := by
  rw [Bool.eq_iff_iff, decide_eq_true_iff, hasName, List.any_eq_true]
  simp only [h.mem_peers_signOut, beq_iff_eq, and_assoc]

lemma Linked.roster_valid (h : t.Linked) : ∀ p ∈ t.roster, 0 ≤ p.1 ∧ p.1 ≤ PeerId.greatest := by
  rintro ⟨id, name⟩ hp
  obtain ⟨p, hp, -⟩ := h.mem_roster.mp hp
  exact h.valid hp

end PeerTable

namespace Room

variable {σ : Type} {ice : Ice} {o : Outlet σ} {s : σ} {room : Room} {es : List Event}
  {v : ConnectionId} {document name : String} {unlisted : Bool}

lemma fits_greeting (h : room.peers.Linked) (ice : Ice) (v : ConnectionId) (name : String)
    (unlisted : Bool) : (room.greeting ice v name unlisted).Fits := by
  have hlater : (room.peers.move v (.enter name)).Linked := h.move
  apply Reply.fits_of_valid
  intro id hid
  rcases List.mem_cons.mp hid with rfl | hid
  · exact PeerTable.freshId_valid _
  · obtain ⟨p, hp, rfl⟩ := List.mem_map.mp hid
    cases unlisted with
    | true => exact absurd hp List.not_mem_nil
    | false => exact hlater.roster_valid p hp

lemma greets_greeting (h : room.peers.Consistent) (ice : Ice) (v : ConnectionId) (name : String)
    (unlisted : Bool) : Reply.Greets (room.greeting ice v name unlisted).received
      ⟨(room.peers.signOut v).2.freshId, name, v⟩
      (decide (∃ q ∈ room.peers.peers, q.connection ≠ v ∧ q.name = name)) ice
      (if unlisted then none else some (room.peers.move v (.enter name)).peers) := by
  have hroster : (if unlisted then none else some ((room.peers.signOut v).2.signIn name v).2.roster) =
      (if unlisted then none else some (room.peers.move v (.enter name)).peers).map
        fun ps => ps.map fun q => (q.id, q.name) := by
    cases unlisted <;> rfl
  rw [greeting, h.hasName_signOut, hroster]
  exact Reply.greets_signedIn (p := ⟨_, name, v⟩)

lemma departed_of_replace (h : room.peers.Consistent) {n : Notice}
    (hn : n ∈ (room.replace v).outbox.notices) :
    ∃ old ∈ room.peers.peers, old.connection = v ∧ n.departed = old.id := by
  rw [(outcome_replace room v).notices] at hn
  cases hold : room.peers.peerAt? v with
  | none =>
    rw [hold] at hn
    exact absurd hn List.not_mem_nil
  | some old =>
    rw [hold] at hn
    obtain ⟨hmem, hv⟩ := h.mem_of_peerAt? hold
    exact ⟨old, hmem, hv, departed_of_mem_notices hn⟩

theorem signIn_answered (h : Finishes ice (es ++ [.text v document]))
    (hparse : Request.parse document = .ok (.signIn name unlisted)) (s : σ) :
    let before := (after ice es).peers
    let turn := (after ice es).act ice o s (.text v document)
    let later := turn.1.peers
    ∃ ms p first rest doc, Request.IsObject document ms ∧ p.connection = v ∧ p.name = name ∧
      (∀ q, q ∈ later.peers ↔ q ∈ before.peers ∧ q.connection ≠ v ∨ q = p) ∧
      later.peers.Pairwise (fun q r => q.id < r.id) ∧
      turn.2.1 = first :: rest ∧ first.receiver = v ∧ Json.parse? first.letter.text = some doc ∧
      Reply.Greets doc p (decide (∃ q ∈ before.peers, q.connection ≠ v ∧ q.name = name)) ice
        (if "nolist" ∈ ms.map Prod.fst then none else some later.peers) ∧
      ∀ m ∈ rest, ¬ Reply.IsReturn m.letter.text ∧
        ∃ old ∈ before.peers, old.connection = v ∧ m.letter.text = (Reply.departed old.id).text := by
  intro before turn later
  have hbefore : before.Consistent := h.of_concat.consistent
  have hmove : (Event.text v document).move = .enter name := by simp only [Event.move, hparse]
  have hfree : (before.signOut v).2.HasFree := h.last (by rw [hmove]; rfl)
  have hlater : later = before.move v (.enter name) := by
    rw [← hmove]
    exact peers_act
  obtain ⟨ms, hobject, -, -, hnolist⟩ := Request.exists_signIn hparse
  obtain ⟨taken, rest, hsent, hrest⟩ := act_greets ice o (after ice es) s v hparse
  have hdoc := Reply.parse_text (fits_greeting hbefore.toLinked ice v name unlisted)
  have hgreets := greets_greeting hbefore ice v name unlisted
  rw [← hlater, if_congr hnolist rfl rfl] at hgreets
  refine ⟨ms, ⟨(before.signOut v).2.freshId, name, v⟩, _, rest, _, hobject, rfl, rfl, fun q => ?_, ?_,
    hsent, rfl, hdoc, hgreets, fun m hm => ?_⟩
  · rw [hlater]
    exact hbefore.mem_peers_enter hfree
  · rw [hlater]
    exact hbefore.toLinked.move.peers_ascending
  · obtain ⟨n, hn, ha⟩ := hrest m hm
    obtain ⟨old, hold, hv, hid⟩ := departed_of_replace hbefore hn
    have hletter : m.letter = .reply (.departed old.id) := by
      rw [← hid]
      exact congrArg Prod.snd ha
    have hvalid := hbefore.valid (hbefore.mem_peers.mp hold)
    rw [hletter]
    exact ⟨Reply.not_isReturn_departed hvalid, old, hold, hv, rfl⟩

def sameName : String := "\x7b\"name\":\"b\",\"signal\":\"sign_in\"\x7d"

theorem signIn_answered_sameName :
    (Finishes .none (oneOffer ++ [.text 1 sameName]) ∧
      Request.parse sameName = .ok (.signIn "b" false)) ∧
    let sent := ((after .none oneOffer).act .none (Exchange.outlet onlySecond) oneMailbox
      (.text 1 sameName)).2.1
    told 0 sent = [2] ∧ ∃ first rest doc, sent = first :: rest ∧
      Json.parse? first.letter.text = some doc ∧ doc.member? "repeat" = some (.boolean true) := by
  have hfinishes : Finishes .none (oneOffer ++ [.text 1 sameName]) := by
    apply finishes_of_signIns_le
    exact Nat.le_trans List.countP_le_length (by decide)
  have hparse : Request.parse sameName = .ok (.signIn "b" false) := by decide +kernel
  have hsame : ∃ q ∈ (after .none oneOffer).peers.peers, q.connection ≠ 1 ∧ q.name = "b" :=
    ⟨_, PeerTable.mem_peers.mpr ⟨1, after_oneOffer.1⟩, by decide, rfl⟩
  obtain ⟨ms, p, first, rest, doc, -, -, -, -, -, hsent, -, hdoc, hgreets, -⟩ :=
    signIn_answered (o := Exchange.outlet onlySecond) hfinishes hparse oneMailbox
  have hagain := hgreets.repeated
  rw [decide_eq_true hsame] at hagain
  exact ⟨⟨hfinishes, hparse⟩, by decide +kernel, first, rest, doc, hsent, hdoc, hagain⟩

end Room

end Rendezvous
