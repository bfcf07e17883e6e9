import Mathlib.Order.Bounds.Basic
import Rendezvous.Proofs.Reply.Faithful
import Rendezvous.Proofs.Request.Names
import Rendezvous.Proofs.Room.Isolation
import Rendezvous.Proofs.Room.Offer

/-! Who is there is a matter of the history: those who have signed in and whose connections have
neither closed nor signed out nor signed in again since. Who asks for a name is told the least
number among them. -/

namespace Rendezvous

namespace PeerTable

variable {t : PeerTable} {v : ConnectionId} {m : Move} {name : String} {k : PeerId} {q : Peer}

lemma Consistent.mem_peers_move (h : t.Consistent) (hfree : m.enters → (t.signOut v).2.HasFree) :
    q ∈ (t.move v m).peers ↔
      (q.connection = v ∧ m = .enter q.name ∧ q.id = (t.signOut v).2.freshId) ∨
      q ∈ t.peers ∧ (v = q.connection → m = .stay) := by
  cases m with
  | stay => simp [PeerTable.move]
  | leave =>
    have hleave : q ∈ (t.move v .leave).peers ↔ q ∈ t.peers ∧ q.connection ≠ v := h.mem_peers_signOut
    rw [hleave]
    simp [eq_comm]
  | enter name =>
    rw [h.mem_peers_enter (hfree rfl), or_comm]
    apply or_congr
    · cases q
      simp only [Peer.mk.injEq, Move.enter.injEq]
      tauto
    · simp [eq_comm]

def namesakes (t : PeerTable) (name : String) : Set PeerId :=
  {k | ∃ p ∈ t.peers, p.name = name ∧ p.id = k}

lemma find?_eq_none_iff : t.find? name = none ↔ t.namesakes name = ∅ := by
  rw [find?, Option.map_eq_none_iff, List.find?_eq_none, Set.eq_empty_iff_forall_notMem]
  simp only [beq_iff_eq]
  constructor
  · rintro h k ⟨p, hp, hname, -⟩
    exact h p hp hname
  · intro h p hp hname
    exact h p.id ⟨p, hp, hname, rfl⟩

lemma Linked.isLeast_of_find? (h : t.Linked) (hk : t.find? name = some k) :
    IsLeast (t.namesakes name) k := by
  obtain ⟨p, hp, rfl⟩ := Option.map_eq_some_iff.mp hk
  obtain ⟨hname, before, rest, hsplit, hbefore⟩ := List.find?_eq_some_iff_append.mp hp
  have hasc := h.peers_ascending
  rw [hsplit, List.pairwise_append] at hasc
  constructor
  · exact ⟨p, by simp [hsplit], by simpa using hname, rfl⟩
  · rintro _ ⟨q, hq, hqname, rfl⟩
    rw [hsplit, List.mem_append, List.mem_cons] at hq
    rcases hq with hq | rfl | hq
    · exact absurd hqname (by simpa using hbefore q hq)
    · exact le_refl _
    · exact le_of_lt ((List.pairwise_cons.mp hasc.2.1).1 q hq)

end PeerTable

namespace Room

variable {σ : Type} {ice : Ice} {o : Outlet σ} {s : σ} {room : Room} {es : List Event} {e : Event}
  {v : ConnectionId} {document name : String} {p : Peer}

def Introduces (ice : Ice) (room : Room) (e : Event) (p : Peer) : Prop :=
  ∃ document again roster, e = .text p.connection document ∧
    Request.Names document .signIn p.name ∧
    (p.connection, .reply (.signedIn p.id p.name again ice roster)) ∈ (room.step ice e).outbox.letters

/-- The peer has signed in, and since then its connection has neither closed nor signed out nor
signed in again. -/
def Lasts (ice : Ice) (es : List Event) (p : Peer) : Prop :=
  ∃ pre e post, es = pre ++ e :: post ∧ Introduces ice (after ice pre) e p ∧
    ∀ g ∈ post, g.connection = p.connection → g.move = .stay

lemma move_eq_enter_iff : e.move = .enter name ↔
    ∃ document, e = .text e.connection document ∧ Request.Names document .signIn name := by
  simp only [← Request.parse_signIn_iff]
  cases e with
  | closed v => simp [Event.move]
  | text v document =>
    cases h : Request.parse document with
    | error f => simp [Event.move, Event.connection, h]
    | ok request => cases request <;> simp [Event.move, Event.connection, h, -Bool.exists_bool]

lemma introduces_iff : Introduces ice room e p ↔ p.connection = e.connection ∧
    e.move = .enter p.name ∧ p.id = (room.peers.signOut e.connection).2.freshId := by
  constructor
  · rintro ⟨document, again, roster, rfl, hnames, hletter⟩
    obtain ⟨unlisted, hparse⟩ := Request.parse_signIn_iff.mpr hnames
    rw [(outbox_signIn ice room p.connection hparse).1, List.mem_singleton] at hletter
    obtain ⟨hid, -⟩ := Reply.signedIn.inj (Letter.reply.inj (Prod.mk.inj hletter).2)
    exact ⟨rfl, move_eq_enter_iff.mpr ⟨document, rfl, hnames⟩, hid⟩
  · rcases p with ⟨id, name, v⟩
    rintro ⟨rfl, hmove, rfl⟩
    obtain ⟨document, he, hnames⟩ := move_eq_enter_iff.mp hmove
    obtain ⟨unlisted, hparse⟩ := Request.parse_signIn_iff.mpr hnames
    have hletter : (e.connection, .reply (room.greeting ice e.connection name unlisted)) ∈
        (room.step ice (.text e.connection document)).outbox.letters := by
      rw [(outbox_signIn ice room e.connection hparse).1]
      exact List.mem_singleton_self _
    rw [← he] at hletter
    exact ⟨document, _, _, he, hnames, hletter⟩

lemma lasts_concat : Lasts ice (es ++ [e]) p ↔ Introduces ice (after ice es) e p ∨
    Lasts ice es p ∧ (e.connection = p.connection → e.move = .stay) := by
  constructor
  · rintro ⟨pre, f, post, hes, hcomes, hpost⟩
    rcases concat_eq_append_cons.mp hes with ⟨-, rfl, rfl⟩ | ⟨post, rfl, rfl⟩
    · exact Or.inl hcomes
    · rw [List.forall_mem_append] at hpost
      exact Or.inr ⟨⟨pre, f, post, rfl, hcomes, hpost.1⟩, hpost.2 e List.mem_cons_self⟩
  · rintro (hcomes | ⟨⟨pre, f, post, rfl, hcomes, hpost⟩, hlast⟩)
    · exact ⟨es, e, [], rfl, hcomes, List.forall_mem_nil _⟩
    · refine ⟨pre, f, post ++ [e], by simp, hcomes, ?_⟩
      rw [List.forall_mem_append, List.forall_mem_singleton]
      exact ⟨hpost, hlast⟩

lemma mem_peers_after (h : Finishes ice es) : p ∈ (after ice es).peers.peers ↔ Lasts ice es p := by
  induction es using List.reverseRecOn with
  | nil =>
    apply iff_of_false
    · intro hp
      exact absurd (PeerTable.mem_peers.mp hp) (by simp [after, Room.empty, PeerTable.empty])
    · rintro ⟨pre, e, post, hes, -⟩
      exact absurd hes.symm (List.append_ne_nil_of_right_ne_nil _ (List.cons_ne_nil _ _))
  | append_singleton es e ih =>
    rw [after_concat, peers_step, h.of_concat.consistent.mem_peers_move h.last, ih h.of_concat,
      lasts_concat, introduces_iff]

def namesakes (ice : Ice) (es : List Event) (name : String) : Set PeerId :=
  {k | ∃ p, Lasts ice es p ∧ p.name = name ∧ p.id = k}

lemma namesakes_after (h : Finishes ice es) :
    (after ice es).peers.namesakes name = namesakes ice es name := by
  ext k
  simp only [PeerTable.namesakes, namesakes, Set.mem_ofPred_eq, mem_peers_after h]

lemma act_exist (ice : Ice) (o : Outlet σ) (room : Room) (s : σ) (v : ConnectionId)
    (h : Request.parse document = .ok (.exist name)) : ∃ taken,
    (room.act ice o s (.text v document)).2.1 =
      [⟨v, .reply (.found (room.peers.find? name)), taken⟩] := by
  have hbox : (room.step ice (.text v document)).outbox = (room.exist v name).outbox := by
    simp only [step, receive, h, answer]
  obtain ⟨taken, t, hsent⟩ := act_letter (congrArg Outbox.letters hbox) o s
  rw [hbox] at hsent
  exact ⟨taken, hsent⟩

theorem exist_answered (h : Finishes ice es) (hask : Request.Names document .exist name)
    (v : ConnectionId) (s : σ) :
    (∃ letter taken doc,
      ((after ice es).act ice o s (.text v document)).2.1 = [⟨v, letter, taken⟩] ∧
      Json.parse? letter.text = some doc ∧
      doc.member? "signal" = some (.text "return") ∧ doc.member? "request" = some (.text "exist") ∧
      ((∃ k, IsLeast (namesakes ice es name) k ∧
          doc.member? "exist" = some (.boolean true) ∧ doc.member? "id" = some (Reply.number k)) ∨
        namesakes ice es name = ∅ ∧
          doc.member? "exist" = some (.boolean false) ∧ doc.member? "id" = none)) ∧
    ∀ text n, (Request.parse text = .ok (.exist n) ↔ Request.Names text .exist n) ∧
      ((∃ unlisted, Request.parse text = .ok (.signIn n unlisted)) ↔ Request.Names text .signIn n) := by
  refine ⟨?_, fun text n => ⟨Request.parse_exist_iff, Request.parse_signIn_iff⟩⟩
  have hlinked : (after ice es).peers.Linked := linked_after ice es
  obtain ⟨taken, hsent⟩ := act_exist ice o (after ice es) s v (Request.parse_exist_iff.mpr hask)
  rw [← namesakes_after h]
  cases hfind : (after ice es).peers.find? name with
  | none =>
    rw [hfind] at hsent
    have hdoc := Reply.parse_text (Reply.fits_of_valid (r := .found none) (by simp [Reply.ids]))
    exact ⟨_, taken, _, hsent, hdoc, rfl, rfl,
      Or.inr ⟨PeerTable.find?_eq_none_iff.mp hfind, rfl, rfl⟩⟩
  | some k =>
    have hleast := hlinked.isLeast_of_find? hfind
    obtain ⟨p, hp, -, rfl⟩ := hleast.1
    rw [hfind] at hsent
    have hvalid := hlinked.valid (hlinked.mem_peers.mp hp)
    have hdoc := Reply.parse_text (Reply.fits_of_valid (r := .found (some p.id))
      (by simpa [Reply.ids] using hvalid))
    exact ⟨_, taken, _, hsent, hdoc, rfl, rfl, Or.inl ⟨p.id, hleast, rfl, rfl⟩⟩

def sevens : List Event :=
  [.text 1 "\x7b\"signal\":\"sign_in\",\"name\":7\x7d",
    .text 2 "\x7b\"signal\":\"sign_in\",\"name\":\"7\"\x7d",
    .text 3 "\x7b\"signal\":\"sign_in\",\"name\":\"\\u0037\"\x7d", .closed 1]

def askSeven : String := "\x7b\"name\":7,\"signal\":\"exist\"\x7d"

theorem exist_answered_sevens :
    (Finishes .none sevens ∧ Request.Names askSeven .exist "7") ∧
      IsLeast (namesakes .none sevens "7") 1 := by
  have hfinishes : Finishes .none sevens := by
    apply finishes_of_signIns_le
    exact Nat.le_trans List.countP_le_length (by decide)
  have hask : Request.Names askSeven .exist "7" := Request.parse_exist_iff.mp (by decide +kernel)
  have hsent : ((after .none sevens).act .none (Exchange.outlet onlySecond) oneMailbox
      (.text 2 askSeven)).2.1 = [⟨2, .reply (.found (some 1)), true⟩] := by decide +kernel
  have hdoc := Reply.parse_text (Reply.fits_of_valid (r := .found (some 1)) (by decide))
  obtain ⟨⟨letter, taken, doc, hsent', hdoc', -, -, hanswer⟩, -⟩ :=
    exist_answered (o := Exchange.outlet onlySecond) hfinishes hask 2 oneMailbox
  rw [hsent] at hsent'
  obtain ⟨-, rfl, -⟩ := Sent.mk.inj (List.singleton_inj.mp hsent')
  obtain rfl := Option.some.inj (hdoc.symm.trans hdoc')
  refine ⟨⟨hfinishes, hask⟩, ?_⟩
  rcases hanswer with ⟨k, hleast, -, hid⟩ | ⟨-, hexist, -⟩
  · have hk : Reply.number 1 = Reply.number k := Option.some.inj hid
    obtain rfl : 1 = k := by simpa [Reply.number] using hk
    exact hleast
  · exact absurd hexist (by simp [Reply.received, Json.Tree.member?, Json.Tree.lastMember?])

end Room

end Rendezvous
