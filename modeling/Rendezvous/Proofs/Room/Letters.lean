import Rendezvous.Proofs.Reply.Departure
import Rendezvous.Room.Step

namespace Rendezvous.Room

inductive Issues (room : Room) : Event → ConnectionId × Letter → Prop where
  | answer {v : ConnectionId} {document : String} {request : Request} {r : Reply}
      (h : Request.parse document = .ok request) (hr : r.Returns request.signal.name) :
      Issues room (.text v document) (v, .reply r)
  | relay {v w : ConnectionId} {document : String} {recipient : PeerId} {sender : Option PeerId}
      {kind : Option String} (h : Request.parse document = .ok (.message recipient sender kind))
      (hw : room.peers.connectionOf? recipient = some w) :
      Issues room (.text v document) (w, .relay document)

variable {ice : Ice} {room : Room} {e : Event} {v : ConnectionId} {x : PeerId}
  {l : ConnectionId × Letter}

lemma Issues.text_ne_departed (h : room.Issues e l) : l.2.text ≠ (Reply.departed x).text := by
  cases h with
  | answer _ hr => exact hr.text_ne
  | @relay v w document recipient sender kind hdocument _ =>
    intro he
    have hdeparted : document = (Reply.departed x).text := he
    rw [hdeparted] at hdocument
    exact Reply.parse_departed_ne_message hdocument

lemma letters_signOut {id : Option PeerId} :
    (room.signOut v id).outbox.letters = [(v, .reply .signedOut)] := by
  unfold signOut
  rcases room.leave v with ⟨own, after⟩
  dsimp only
  cases id.or (own.map Peer.id) <;> rfl

lemma letters_close : (room.close v).outbox.letters = [] := by
  unfold close
  rcases room.leave v with ⟨_ | peer, after⟩ <;> rfl

lemma outbox_message (room : Room) (v : ConnectionId) (document : String) (recipient : PeerId)
    (sender : Option PeerId) (kind : Option String) :
    (room.message v document recipient sender kind).outbox =
      (room.peers.connectionOf? recipient).elim .empty
        fun w => { letters := [(w, .relay document)] } := by
  unfold message
  cases room.peers.connectionOf? recipient with
  | none => rfl
  | some w =>
    dsimp only
    split
    · cases room.caller? v sender <;> rfl
    · rfl

lemma issues_answer {document : String} {request : Request}
    (h : Request.parse document = .ok request)
    (hl : l ∈ (room.answer ice v document request).outbox.letters) :
    room.Issues (.text v document) l := by
  cases request with
  | signIn name unlisted =>
    obtain rfl := List.mem_singleton.mp hl
    exact .answer h Reply.returns_signedIn
  | signOut id =>
    rw [answer, letters_signOut] at hl
    obtain rfl := List.mem_singleton.mp hl
    exact .answer h Reply.returns_signedOut
  | message recipient sender kind =>
    rw [answer, outbox_message] at hl
    cases hw : room.peers.connectionOf? recipient with
    | none =>
      rw [hw] at hl
      exact absurd hl List.not_mem_nil
    | some w =>
      rw [hw] at hl
      obtain rfl := List.mem_singleton.mp hl
      exact .relay h hw
  | exist name =>
    obtain rfl := List.mem_singleton.mp hl
    exact .answer h Reply.returns_found

lemma issues_step (hl : l ∈ (room.step ice e).outbox.letters) : room.Issues e l := by
  cases e with
  | closed v =>
    rw [step, letters_close] at hl
    exact absurd hl List.not_mem_nil
  | text v document =>
    cases h : Request.parse document with
    | error _ =>
      simp only [step, receive, h] at hl
      exact absurd hl List.not_mem_nil
    | ok request =>
      simp only [step, receive, h] at hl
      exact issues_answer h hl

end Rendezvous.Room
