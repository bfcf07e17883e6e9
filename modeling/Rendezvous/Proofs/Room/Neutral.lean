import Rendezvous.Proofs.Room.Departure

/-! Events that only ask, or that nobody understands, leave no trace. They can be left out of a run
anywhere, and the others are answered as before. -/

namespace Rendezvous

namespace Outlet

variable {σ τ : Type} {o : Outlet σ} {q : Outlet τ} {s : σ} {t : τ}

def Agree (o : Outlet σ) (s : σ) (q : Outlet τ) (t : τ) : Prop :=
  ∀ log letters notices, o.asked notices (o.postLetters letters (o.noteAll log s)).2 =
    q.asked notices (q.postLetters letters (q.noteAll log t)).2

lemma postNotices_eq_asked (notices : List Notice) : (o.postNotices notices s).1.map Sent.address =
    ((notices.zip (o.asked notices s)).filter fun n => n.2.2).map fun n => n.1.address := by
  induction notices generalizing s with
  | nil => rfl
  | cons n rest ih =>
    rw [postNotices, asked]
    rcases o.isOpen n.receiver s with ⟨_ | _, s'⟩
    · exact ih
    · exact congrArg (n.address :: ·) ih

lemma Agree.deliver (h : o.Agree s q t) (box : Outbox) (log : List Log.Entry) :
    (o.deliver box (o.noteAll log s)).1.map Sent.address =
      (q.deliver box (q.noteAll log t)).1.map Sent.address := by
  simp only [Outlet.deliver, List.map_append, postLetters_fst, postNotices_eq_asked,
    h log box.letters box.notices]

end Outlet

namespace Exchange

variable {r r' : Registry} {x y : Exchange}

lemma asked_eq (notices : List Notice) : (outlet r).asked notices x =
    notices.map fun n => (n.receiver, x.post.isConnected r n.receiver) := by
  have hself : ∀ a ∈ (outlet r).asked notices x, (a.1, x.post.isConnected r a.1) = a :=
    fun a ha => Prod.ext rfl (isConnected_of_asked a ha)
  calc (outlet r).asked notices x
      = ((outlet r).asked notices x).map fun a => (a.1, x.post.isConnected r a.1) :=
        ((List.map_congr_left hself).trans (List.map_id' _)).symm
    _ = (((outlet r).asked notices x).map Prod.fst).map
          fun v => (v, x.post.isConnected r v) := by rw [List.map_map]; rfl
    _ = notices.map fun n => (n.receiver, x.post.isConnected r n.receiver) := by
        rw [Outlet.asked_fst, List.map_map]
        rfl

lemma agree_outlet (h : x.post.isConnected r = y.post.isConnected r') :
    (outlet r).Agree x (outlet r') y := by
  intro log letters notices
  simp only [asked_eq, isConnected_postLetters, post_noteAll, h]

lemma isConnected_postNotices {notices : List Notice} :
    ((outlet r).postNotices notices x).2.post.isConnected r = x.post.isConnected r := by
  induction notices generalizing x with
  | nil => rfl
  | cons n rest ih =>
    rcases ho : (outlet r).isOpen n.receiver x with ⟨b, y⟩
    obtain ⟨-, rfl⟩ := Prod.mk.inj ho
    rw [Outlet.postNotices, ho]
    cases b with
    | true => exact ih.trans (funext fun _ => isConnected_post)
    | false => exact ih

lemma marks_snd (peers : List Peer) : ((outlet r).marks peers x).2 = x := by
  induction peers with
  | nil => rfl
  | cons p ps ih => exact ih

lemma post_noteListing (peers : List Peer) : ((outlet r).noteListing peers x).post = x.post := by
  unfold Outlet.noteListing
  split
  · change ((outlet r).marks peers x).2.post = x.post
    rw [marks_snd]
  · rfl

lemma isConnected_act {ice : Ice} {room : Room} {e : Event} :
    (room.act ice (outlet r) x e).2.2.post.isConnected r = x.post.isConnected r := by
  have hsent : ∀ box, ((outlet r).postNotices (room.step ice e).outbox.notices
      ((outlet r).postLetters box ((outlet r).noteAll (room.step ice e).log x)).2).2.post.isConnected
        r = x.post.isConnected r := by
    intro box
    rw [isConnected_postNotices]
    funext v
    rw [isConnected_postLetters, post_noteAll]
  unfold Room.act Outlet.deliver
  dsimp only
  cases (room.step ice e).outbox.listing with
  | none => exact hsent _
  | some peers =>
    dsimp only
    rw [post_noteListing]
    exact hsent _

end Exchange

namespace Room

variable {σ τ : Type} {ice : Ice} {o : Outlet σ} {q : Outlet τ} {room : Room} {e : Event} {s : σ}
  {t : τ}

/-- The event asks for nothing that would last: its text is no request, asks whether a name is
there, or is a message and no offer; or a connection closes that no peer is on. -/
inductive Neutral (room : Room) : Event → Prop where
  | refused {v : ConnectionId} {document : String} {fault : Request.Fault}
      (h : Request.parse document = .error fault) : Neutral room (.text v document)
  | exist {v : ConnectionId} {document name : String}
      (h : Request.parse document = .ok (.exist name)) : Neutral room (.text v document)
  | message {v : ConnectionId} {document : String} {recipient : PeerId} {sender : Option PeerId}
      {kind : Option String} (h : Request.parse document = .ok (.message recipient sender kind))
      (hk : kind ≠ some Request.offerKind) : Neutral room (.text v document)
  | vacant {v : ConnectionId} (h : room.peers.byConnection[v]? = none) : Neutral room (.closed v)

lemma message_of_ne_offer {v : ConnectionId} {document : String} {recipient : PeerId}
    {sender : Option PeerId} {kind : Option String} (hk : kind ≠ some Request.offerKind) :
    (room.message v document recipient sender kind).room = room := by
  have hoffer : Request.isOffer kind = false := by simpa [Request.isOffer] using hk
  unfold message
  cases room.peers.connectionOf? recipient with
  | none => rfl
  | some target => simp [hoffer]

lemma step_of_neutral (h : room.Neutral e) : (room.step ice e).room = room := by
  cases h with
  | refused h => simp only [step, receive, h]
  | exist h => simp only [step, receive, h, answer, exist]
  | message h hk =>
    simp only [step, receive, h, answer]
    exact message_of_ne_offer hk
  | vacant h => rw [step, close_of_vacant h]

lemma act_agree (h : o.Agree s q t) : (room.act ice o s e).2.1.map Sent.address =
    (room.act ice q t e).2.1.map Sent.address :=
  h.deliver _ _

structure Visit (σ : Type) where
  event : Event
  outlet : σ
  omitted : Bool := false

namespace Visit

def attend (ice : Ice) (o : Outlet σ) : List (Visit σ) → Room → List (Visit σ × List Sent) × Room
  | [], room => ([], room)
  | v :: vs, room =>
    let turn := room.act ice o v.outlet v.event
    let rest := attend ice o vs turn.1
    ((v, turn.2.1) :: rest.1, rest.2)

def ofRun (ice : Ice) (o : Outlet σ) : List (Event × Bool) → Room → σ → List (Visit σ)
  | [], _, _ => []
  | (e, omitted) :: es, room, s =>
    let turn := room.act ice o s e
    ⟨e, s, omitted⟩ :: ofRun ice o es turn.1 turn.2.2

lemma attend_ofRun (es : List (Event × Bool)) :
    let attended := attend ice o (ofRun ice o es room s) room
    let ran := run ice o (es.map Prod.fst) room s
    attended.1.map Prod.snd = ran.1 ∧ attended.2 = ran.2.1 := by
  induction es generalizing room s with
  | nil => exact ⟨rfl, rfl⟩
  | cons e es ih =>
    obtain ⟨hsent, hroom⟩ := @ih (room.act ice o s e.1).1 (room.act ice o s e.1).2.2
    exact ⟨congrArg (_ :: ·) hsent, hroom⟩

def OmitNeutral (ice : Ice) : List (Visit σ) → Room → Prop
  | [], _ => True
  | v :: vs, room =>
    (v.omitted → room.Neutral v.event) ∧ OmitNeutral ice vs (room.step ice v.event).room

def kept (vs : List (Visit σ)) : List (Visit σ) := vs.filter fun v => !v.omitted

structure Alike (o : Outlet σ) (q : Outlet τ) (v : Visit σ) (w : Visit τ) : Prop where
  event_eq : w.event = v.event
  agree : o.Agree v.outlet q w.outlet

def addresses (ms : List (Visit σ × List Sent)) : List (List (ConnectionId × Letter)) :=
  ms.map fun m => m.2.map Sent.address

theorem attend_kept (ice : Ice) (o : Outlet σ) (q : Outlet τ) (room : Room) (vs : List (Visit σ))
    (ws : List (Visit τ)) (h : OmitNeutral ice vs room) (hw : List.Forall₂ (Alike o q) (kept vs) ws) :
    let whole := attend ice o vs room
    let rest := attend ice q ws room
    addresses rest.1 = addresses (whole.1.filter fun m => !m.1.omitted) ∧ rest.2 = whole.2 := by
  induction vs generalizing room ws with
  | nil =>
    cases hw
    exact ⟨rfl, rfl⟩
  | cons v vs ih =>
    obtain ⟨hv, hvs⟩ := h
    cases homitted : v.omitted with
    | false =>
      have hkept : kept (v :: vs) = v :: kept vs := List.filter_cons_of_pos (by simp [homitted])
      rw [hkept] at hw
      obtain ⟨w, ws, hvw, hws, rfl⟩ := List.forall₂_cons_left_iff.mp hw
      obtain ⟨hsent, hroom⟩ := ih _ ws hvs hws
      have hstep : (room.act ice q w.outlet w.event).1 = (room.act ice o v.outlet v.event).1 :=
        congrArg (fun e => (room.step ice e).room) hvw.event_eq
      have hfirst : (room.act ice q w.outlet w.event).2.1.map Sent.address =
          (room.act ice o v.outlet v.event).2.1.map Sent.address := by
        rw [hvw.event_eq]
        exact (act_agree hvw.agree).symm
      dsimp only [attend]
      rw [hstep, List.filter_cons_of_pos (by simp [homitted])]
      exact ⟨congrArg₂ List.cons hfirst hsent, hroom⟩
    | true =>
      -- The room stays as it is, and so the others find the same room without this visit.
      have hstay : (room.step ice v.event).room = room := step_of_neutral (hv homitted)
      have hkept : kept (v :: vs) = kept vs := List.filter_cons_of_neg (by simp [homitted])
      rw [hkept] at hw
      rw [hstay] at hvs
      have hact : (room.act ice o v.outlet v.event).1 = room := hstay
      dsimp only [attend]
      rw [hact, List.filter_cons_of_neg (by simp [homitted])]
      exact ih room ws hvs hw

lemma alike_ofRun {r : Registry} {x y : Exchange} {room room' : Room} {es : List (Event × Bool)}
    (h : x.post.isConnected r = y.post.isConnected r) :
    List.Forall₂ (Alike (Exchange.outlet r) (Exchange.outlet r))
      (kept (ofRun ice (Exchange.outlet r) es room x))
      (ofRun ice (Exchange.outlet r) (es.filter fun e => !e.2) room' y) := by
  induction es generalizing x y room room' with
  | nil => exact .nil
  | cons e es ih =>
    obtain ⟨e, omitted⟩ := e
    cases omitted with
    | false =>
      refine List.Forall₂.cons ⟨rfl, Exchange.agree_outlet h⟩ (ih ?_)
      rw [Exchange.isConnected_act, Exchange.isConnected_act, h]
    | true => exact ih (Exchange.isConnected_act.trans h)

def chatter : List (Event × Bool) :=
  [(.text 1 "\x7b\"signal\":\"sign_in\",\"name\":\"a\"\x7d", false),
    (.text 2 "hello", true),
    (.text 2 "\x7b\"signal\":\"sign_in\",\"name\":\"b\"\x7d", false),
    (.text 1 "\x7b\"signal\":\"exist\",\"name\":\"b\"\x7d", true),
    (.text 2 "\x7b\"signal\":\"message\",\"to\":0,\"type\":\"offer\"\x7d", false),
    (.text 1 "\x7b\"signal\":\"message\",\"to\":1,\"type\":\"answer\"\x7d", true),
    (.closed 3, true),
    (.closed 1, false)]

def chatterOutlet : Outlet Exchange := Exchange.outlet onlySecond

lemma omitNeutral_chatter :
    OmitNeutral .none (ofRun .none chatterOutlet chatter .empty oneMailbox) .empty := by
  have hexist : Request.parse "\x7b\"signal\":\"exist\",\"name\":\"b\"\x7d" =
      .ok (.exist "b") := by decide +kernel
  have hmessage : Request.parse "\x7b\"signal\":\"message\",\"to\":1,\"type\":\"answer\"\x7d" =
      .ok (.message 1 none (some "answer")) := by decide +kernel
  have hrefused : Request.parse "hello" = .error .json := by decide +kernel
  refine ⟨?_, fun _ => .refused hrefused, ?_, fun _ => .exist hexist, ?_,
    fun _ => .message hmessage (by decide), fun _ => .vacant (by decide +kernel), ?_, trivial⟩ <;>
    exact fun h => absurd h Bool.false_ne_true

theorem attend_kept_chatter :
    let whole := ofRun .none chatterOutlet chatter .empty oneMailbox
    let rest := ofRun .none chatterOutlet (chatter.filter fun e => !e.2) .empty oneMailbox
    (OmitNeutral .none whole .empty ∧
      List.Forall₂ (Alike chatterOutlet chatterOutlet) (kept whole) rest) ∧
    (addresses (attend .none chatterOutlet rest .empty).1 = addresses
        ((attend .none chatterOutlet whole .empty).1.filter fun m => !m.1.omitted) ∧
      (attend .none chatterOutlet rest .empty).2 = (attend .none chatterOutlet whole .empty).2) ∧
    (attend .none chatterOutlet whole .empty).1.map Prod.snd =
      (run .none chatterOutlet (chatter.map Prod.fst) .empty oneMailbox).1 ∧
    (addresses (attend .none chatterOutlet rest .empty).1).getLast? =
      some [(2, .reply (.departed 0))] := by
  intro whole rest
  have halike : List.Forall₂ (Alike chatterOutlet chatterOutlet) (kept whole) rest := alike_ofRun rfl
  exact ⟨⟨omitNeutral_chatter, halike⟩,
    attend_kept .none chatterOutlet chatterOutlet .empty whole rest omitNeutral_chatter halike,
    (attend_ofRun chatter).1, by decide +kernel⟩

end Visit

end Room

end Rendezvous
