import Rendezvous.Proofs.Room.Departure

namespace Rendezvous

lemma Outlet.mem_deliver {σ : Type} {o : Outlet σ} {s : σ} {m : Sent} {box : Outbox}
    (hm : m ∈ (o.deliver box s).1) :
    m.address ∈ box.letters ∨ ∃ n ∈ box.notices, m.address = n.address := by
  rcases List.mem_append.mp hm with hletter | hnotice
  · have haddress : m.address ∈ (o.postLetters box.letters s).1.map Sent.address :=
      List.mem_map_of_mem hletter
    rw [postLetters_fst] at haddress
    exact Or.inl haddress
  · exact Or.inr (mem_postNotices hnotice)

namespace Room

variable {σ : Type} {ice : Ice} {room : Room} {e : Event} {v w : ConnectionId} {document : String}
  {recipient : PeerId} {sender : Option PeerId} {kind : Option String}

def FirstOffer (room : Room) (v : ConnectionId) (caller recipient : PeerId) (sender : Option PeerId)
    (kind : Option String) : Prop :=
  kind = some Request.offerKind ∧ room.caller? v sender = some caller ∧
    ⟨caller, recipient⟩ ∉ room.pairs.pairs

lemma step_relay (h : Request.parse document = .ok (.message recipient sender kind))
    (hw : room.peers.connectionOf? recipient = some w) :
    (room.step ice (.text v document)).outbox = { letters := [(w, .relay document)] } := by
  have hbox := outbox_message room v document recipient sender kind
  rw [hw, Option.elim_some] at hbox
  simpa only [step, receive, h, answer] using hbox

lemma step_drop (h : Request.parse document = .ok (.message recipient sender kind))
    (hw : room.peers.connectionOf? recipient = none) :
    (room.step ice (.text v document)).room = room ∧
      (room.step ice (.text v document)).outbox = .empty := by
  simp only [step, receive, h, answer, message, hw, and_self]

lemma peers_message_step (h : Request.parse document = .ok (.message recipient sender kind)) :
    (room.step ice (.text v document)).room.peers = room.peers := by
  rw [peers_step]
  simp only [Event.move, h, PeerTable.move]

lemma offer?_message (h : Request.parse document = .ok (.message recipient sender kind))
    (hw : room.peers.connectionOf? recipient = some w) {p : Pairing} :
    room.offer? (.text v document) = some p ↔ kind = some Request.offerKind ∧
      room.caller? v sender = some p.caller ∧ recipient = p.callee := by
  rw [offer?_eq_some]
  constructor
  · rintro ⟨v', document', sender', he, hparse, -, hcaller⟩
    obtain ⟨rfl, rfl⟩ := Event.text.inj he
    obtain ⟨rfl, rfl, rfl⟩ := Request.message.inj (Except.ok.inj (h.symm.trans hparse))
    exact ⟨rfl, hcaller, rfl⟩
  · rintro ⟨rfl, hcaller, rfl⟩
    exact ⟨v, document, sender, rfl, h, by rw [hw]; rfl, hcaller⟩

lemma pairs_message_step (h : Request.parse document = .ok (.message recipient sender kind))
    (hw : room.peers.connectionOf? recipient = some w) :
    let later := (room.step ice (.text v document)).room.pairs
    (∀ caller, room.FirstOffer v caller recipient sender kind →
      later.pairs = room.pairs.pairs ++ [⟨caller, recipient⟩]) ∧
    ((∀ caller, ¬ room.FirstOffer v caller recipient sender kind) → later = room.pairs) := by
  intro later
  have hlater := (outcome_step ice room (.text v document)).pairs
  have hparted : room.parted? (.text v document) = none := by simp only [parted?, h]
  rw [hparted] at hlater
  constructor
  · rintro caller ⟨hkind, hcaller, hnew⟩
    have hoffer : room.offer? (.text v document) = some ⟨caller, recipient⟩ :=
      (offer?_message h hw).mpr ⟨hkind, hcaller, rfl⟩
    rw [hoffer] at hlater
    exact congrArg PairTable.pairs (hlater.trans (if_neg hnew))
  · intro hnone
    cases hoffer : room.offer? (.text v document) with
    | none =>
      rw [hoffer] at hlater
      exact hlater
    | some p =>
      obtain ⟨hkind, hcaller, rfl⟩ := (offer?_message h hw).mp hoffer
      have hold : p ∈ room.pairs.pairs := by
        by_contra hnew
        exact hnone p.caller ⟨hkind, hcaller, hnew⟩
      rw [hoffer] at hlater
      exact hlater.trans (if_pos hold)

lemma notices_step {n : Notice} (hn : n ∈ (room.step ice e).outbox.notices) :
    ∃ x, room.parted? e = some x ∧ n.letter = .reply (.departed x) := by
  rw [(outcome_step ice room e).notices] at hn
  cases hparted : room.parted? e with
  | none =>
    rw [hparted] at hn
    exact absurd hn List.not_mem_nil
  | some x =>
    rw [hparted] at hn
    exact ⟨x, rfl, by rw [Notice.letter, departed_of_mem_notices hn]⟩

theorem act_relays (ice : Ice) (o : Outlet σ) (room : Room) (s : σ) :
    (∀ v document recipient sender kind,
      Request.parse document = .ok (.message recipient sender kind) →
      let turn := room.act ice o s (.text v document)
      let noted := o.noteAll (room.step ice (.text v document)).log s
      (∀ w, room.peers.connectionOf? recipient = some w →
        turn.2 = ([⟨w, .relay document, (o.send w document noted).1⟩],
          (o.send w document noted).2) ∧
        turn.1.peers = room.peers ∧
        (∀ caller, room.FirstOffer v caller recipient sender kind →
          turn.1.pairs.pairs = room.pairs.pairs ++ [⟨caller, recipient⟩]) ∧
        ((∀ caller, ¬ room.FirstOffer v caller recipient sender kind) →
          turn.1.pairs = room.pairs)) ∧
      (room.peers.connectionOf? recipient = none → turn = (room, [], noted))) ∧
    ∀ e, ∀ m ∈ (room.act ice o s e).2.1,
      room.Issues e m.address ∨ ∃ x, room.parted? e = some x ∧ m.letter = .reply (.departed x) := by
  constructor
  · intro v document recipient sender kind h turn noted
    have hturn : turn = ((room.step ice (.text v document)).room,
      o.deliver (room.step ice (.text v document)).outbox noted) := rfl
    constructor
    · intro w hw
      rw [hturn, step_relay h hw]
      exact ⟨rfl, peers_message_step h, pairs_message_step h hw⟩
    · intro hw
      have hdrop : (room.step ice (.text v document)).room = room ∧ _ := step_drop h hw
      rw [hturn, hdrop.1, hdrop.2]
      rfl
  · intro e m hm
    rcases Outlet.mem_deliver hm with hletter | ⟨n, hn, haddress⟩
    · exact Or.inl (issues_step hletter)
    · obtain ⟨x, hparted, hletter⟩ := notices_step hn
      have hsame : m.letter = n.letter := congrArg Prod.snd haddress
      exact Or.inr ⟨x, hparted, hsame.trans hletter⟩

def toSecond : String := "\x7b\"signal\":\"message\",\"to\":1,\"type\":\"offer\"\x7d"

theorem act_relays_toSecond :
    (Request.parse toSecond = .ok (.message 1 none (some Request.offerKind)) ∧
      (after .none threeGuests).peers.connectionOf? 1 = some 2 ∧
      (after .none threeGuests).FirstOffer 1 0 1 none (some Request.offerKind)) ∧
    ((after .none threeGuests).act .none (Exchange.outlet onlySecond) oneMailbox
        (.text 1 toSecond)).2.1.map Sent.address = [(2, .relay toSecond)] ∧
    ((after .none threeGuests).act .none (Exchange.outlet onlySecond) oneMailbox
        (.text 1 toSecond)).1.pairs.pairs = (after .none threeGuests).pairs.pairs ++ [⟨0, 1⟩] := by
  have hparse : Request.parse toSecond = .ok (.message 1 none (some Request.offerKind)) := by
    decide +kernel
  obtain ⟨-, hw, hcaller, hpairs, -⟩ := after_threeGuests
  have hfirst : (after .none threeGuests).FirstOffer 1 0 1 none (some Request.offerKind) := by
    refine ⟨rfl, hcaller, ?_⟩
    rw [hpairs]
    decide
  have h := (act_relays .none (Exchange.outlet onlySecond) (after .none threeGuests) oneMailbox).1
    1 toSecond 1 none _ hparse
  obtain ⟨hsent, -, hpairs, -⟩ := h.1 2 hw
  exact ⟨⟨hparse, hw, hfirst⟩, by rw [hsent]; rfl, hpairs 0 hfirst⟩

end Room

end Rendezvous
