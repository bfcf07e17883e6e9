import Rendezvous.Proofs.Room.Offer

/-! The two sides of a pairing. Whoever has been there since the offer is still there, unless he has
signed out under a number that is neither his own nor his partner's. -/

namespace Rendezvous

lemma PeerTable.exists_byId_move {t : PeerTable} {v : ConnectionId} {m : Move} {x : PeerId}
    {q : Peer} (hq : t.byId[x]? = some q) (hv : t.byConnection[v]? ≠ some x) :
    ∃ r : Peer, (t.move v m).byId[x]? = some r := by
  have hstays : (t.signOut v).2.byId[x]? = some q := by rw [byId_signOut, if_neg hv, hq]
  cases m with
  | stay => exact ⟨q, hq⟩
  | leave => exact ⟨q, hstays⟩
  | enter name =>
    change ∃ r : Peer, ((t.signOut v).2.signIn name v).2.byId[x]? = some r
    rw [byId_signIn]
    split
    · exact ⟨_, rfl⟩
    · exact ⟨q, hstays⟩

namespace Room

variable {σ : Type} {ice : Ice} {o : Outlet σ} {s : σ} {room : Room} {e : Event}
  {f g : Event} {base rest mid tail : List Event} {p : Pairing} {x y : PeerId}

def hosts (room : Room) (x : PeerId) : Prop := ∃ q ∈ room.peers.peers, q.id = x

def Records (room : Room) (e : Event) (p : Pairing) : Prop :=
  room.hosts p.callee ∧ ∃ v document sender, e = .text v document ∧
    Request.parse document = .ok (.message p.callee sender (some Request.offerKind)) ∧
    sender.or ((room.peers.peerAt? v).map Peer.id) = some p.caller

/-- The peer `x` signs out, but gives the number `y`. -/
def Slips (room : Room) (e : Event) (x y : PeerId) : Prop :=
  y ≠ x ∧ ∃ v document, e = .text v document ∧ Request.parse document = .ok (.signOut (some y)) ∧
    (room.peers.peerAt? v).map Peer.id = some x

lemma Slips.parts (h : room.Slips e x y) : room.parts e y := by
  obtain ⟨-, v, document, rfl, hr, -⟩ := h
  simp only [Room.parts, parted?, hr, Option.some_or]

lemma hosts_iff (h : room.peers.Linked) :
    room.hosts x ↔ ∃ q : Peer, room.peers.byId[x]? = some q := by
  constructor
  · rintro ⟨q, hq, rfl⟩
    exact ⟨q, h.mem_peers.mp hq⟩
  · rintro ⟨q, hq⟩
    exact ⟨q, PeerTable.mem_peers.mpr ⟨x, hq⟩, h.keyed hq⟩

lemma hosts_of_connectionOf? (h : (room.peers.connectionOf? x).isSome) (hl : room.peers.Linked) :
    room.hosts x := by
  obtain ⟨w, hw⟩ := Option.isSome_iff_exists.mp h
  obtain ⟨q, hq, hx, -⟩ := hl.connectionOf?_eq_some.mp hw
  exact ⟨q, hq, hx⟩

lemma records_of_offer? (hl : room.peers.Linked) (h : room.offer? e = some p) : room.Records e p := by
  obtain ⟨v, document, sender, rfl, hr, hthere, hcaller⟩ := offer?_eq_some.mp h
  exact ⟨hosts_of_connectionOf? hthere hl, v, document, sender, rfl, hr, hcaller⟩

lemma stay_or_parts_or_slips (hown : (room.peers.peerAt? e.connection).map Peer.id = some x) :
    e.move = .stay ∨ room.parts e x ∨ ∃ y, room.Slips e x y := by
  cases e with
  | closed v => exact Or.inr (Or.inl hown)
  | text v document =>
    change (room.peers.peerAt? v).map Peer.id = some x at hown
    cases hr : Request.parse document with
    | error _ => exact Or.inl (by simp only [Event.move, hr])
    | ok request =>
      cases request with
      | signIn name unlisted =>
        exact Or.inr (Or.inl (by simpa only [parts, parted?, hr] using hown))
      | signOut id =>
        cases id with
        | none =>
          exact Or.inr (Or.inl (by simpa only [parts, parted?, hr, Option.none_or] using hown))
        | some y =>
          by_cases hy : y = x
          · exact Or.inr (Or.inl (by simp only [parts, parted?, hr, Option.some_or, hy]))
          · exact Or.inr (Or.inr ⟨y, hy, v, document, rfl, hr, hown⟩)
      | message recipient sender kind => exact Or.inl (by simp only [Event.move, hr])
      | exist name => exact Or.inl (by simp only [Event.move, hr])

lemma hosts_step (hl : room.peers.Linked) (hx : room.hosts x) :
    (room.step ice e).room.hosts x ∨ room.parts e x ∨ ∃ y, room.Slips e x y := by
  obtain ⟨q, hq⟩ := (hosts_iff hl).mp hx
  have hlater : (room.step ice e).room.peers.Linked := by
    rw [peers_step]
    exact hl.move
  rw [hosts_iff hlater, peers_step]
  by_cases hown : room.peers.byConnection[e.connection]? = some x
  · have hpeer : (room.peers.peerAt? e.connection).map Peer.id = some x := by
      rw [PeerTable.peerAt?, hown, Option.bind_some, hq, Option.map_some, hl.keyed hq]
    refine (stay_or_parts_or_slips hpeer).imp (fun hstay => ?_) id
    rw [hstay]
    exact ⟨q, hq⟩
  · exact Or.inl (PeerTable.exists_byId_move hq hown)

lemma hosts_after_append (rest : List Event) (hx : (after ice base).hosts x) :
    (after ice (base ++ rest)).hosts x ∨ ∃ mid g tail, rest = mid ++ g :: tail ∧
      ((after ice (base ++ mid)).parts g x ∨ ∃ y, (after ice (base ++ mid)).Slips g x y) := by
  induction rest using List.reverseRecOn with
  | nil => exact Or.inl (by rwa [List.append_nil])
  | append_singleton rest e ih =>
    rcases ih with hstays | ⟨mid, g, tail, rfl, hgoes⟩
    · rw [← List.append_assoc, after_concat]
      refine (hosts_step (linked_after ice (base ++ rest)) hstays).imp id fun hgoes => ?_
      exact ⟨rest, e, [], rfl, hgoes⟩
    · exact Or.inr ⟨mid, g, tail ++ [e], by simp, hgoes⟩

lemma mentions_of_parts_since (hoffer : (after ice base).offer? f = some p)
    (hrest : ∀ mid g tail, rest = mid ++ g :: tail →
      ∀ x, (after ice (base ++ f :: mid)).parts g x → p.mentions x = false)
    (hsplit : f :: rest = mid ++ g :: tail) (hg : (after ice (base ++ mid)).parts g x) :
    p.mentions x = false := by
  cases mid with
  | nil =>
    obtain ⟨rfl, -⟩ := List.cons.inj hsplit
    rw [List.append_nil, parts, parted?_of_offer? hoffer] at hg
    exact absurd hg (by simp)
  | cons h mid =>
    obtain ⟨rfl, hrest'⟩ := List.cons.inj hsplit
    exact hrest mid g tail hrest' x hg

lemma not_mem_pairs_of_parts (hx : p.mentions x) (hparts : room.parts e x) :
    p ∉ (room.step ice e).room.pairs.pairs := by
  intro hmem
  rcases mem_pairs_step.mp hmem with hoffer | ⟨-, hstands⟩
  · rw [parts, parted?_of_offer? hoffer] at hparts
    exact absurd hparts (by simp)
  · rw [hstands x hparts] at hx
    exact absurd hx (by simp)

theorem pairing_endpoints (es : List Event) (hp : p ∈ (after ice es).pairs.pairs) :
    (∃ pre f post, es = pre ++ f :: post ∧ (after ice pre).Records f p ∧
      (∀ mid rest, post = mid ++ rest → p ∈ (after ice (pre ++ f :: mid)).pairs.pairs) ∧
      ∀ x, p.mentions x → ∀ mid rest, f :: post = mid ++ rest → (after ice (pre ++ mid)).hosts x →
        (after ice es).hosts x ∨ ∃ mid' g tail y, rest = mid' ++ g :: tail ∧
          (after ice (pre ++ mid ++ mid')).Slips g x y ∧ p.mentions y = false) ∧
    ∀ e x, p.mentions x → (after ice es).parts e x →
      p ∉ ((after ice es).act ice o s e).1.pairs.pairs := by
  refine ⟨?_, fun e x => not_mem_pairs_of_parts⟩
  obtain ⟨pre, f, post, rfl, hoffer, hpost⟩ := mem_pairs_after.mp hp
  refine ⟨pre, f, post, rfl, records_of_offer? (linked_after ice pre) hoffer, ?_, ?_⟩
  · rintro mid rest rfl
    refine mem_pairs_after.mpr ⟨pre, f, mid, rfl, hoffer, fun mid' g rest' hmid => ?_⟩
    exact hpost mid' g (rest' ++ rest) (by rw [hmid, List.append_assoc, List.cons_append])
  · intro x hx mid rest hsplit hhosts
    rcases hosts_after_append rest hhosts with hstays | ⟨mid', g, tail, rfl, hgoes⟩
    · rw [List.append_assoc, ← hsplit] at hstays
      exact Or.inl hstays
    · rw [← List.append_assoc] at hsplit
      -- The pairing is still there, so no number that has parted since is one of its two.
      have hspared {z : PeerId} (hz : (after ice (pre ++ mid ++ mid')).parts g z) :
          p.mentions z = false := by
        rw [List.append_assoc] at hz
        exact mentions_of_parts_since hoffer hpost hsplit hz
      rcases hgoes with hg | ⟨y, hslips⟩
      · rw [hspared hg] at hx
        exact absurd hx (by simp)
      · exact Or.inr ⟨mid', g, tail, y, rfl, hslips, hspared hslips.parts⟩

theorem pairing_endpoints_oneOffer : (⟨1, 0⟩ : Pairing) ∈ (after .none oneOffer).pairs.pairs ∧
    (⟨1, 0⟩ : Pairing) ∉ ((after .none oneOffer).act .none (Exchange.outlet onlySecond) oneMailbox
      (.closed 1)).1.pairs.pairs := by
  obtain ⟨-, hpairs, hparted, -⟩ := after_oneOffer
  have hp : (⟨1, 0⟩ : Pairing) ∈ (after .none oneOffer).pairs.pairs := by
    rw [hpairs]
    exact List.mem_singleton_self _
  exact ⟨hp, (pairing_endpoints oneOffer hp).2 (.closed 1) 0 rfl hparted⟩

def asSeven : List Event :=
  [.text 2 "\x7b\"signal\":\"sign_out\",\"id\":7\x7d",
    .text 2 "\x7b\"signal\":\"message\",\"from\":7,\"to\":0,\"type\":\"offer\"\x7d"]

theorem pairs_asSeven :
    (after .none (oneOffer ++ asSeven.take 1)).peers.roster = [(0, "a")] ∧
      (after .none (oneOffer ++ asSeven.take 1)).pairs.pairs = [⟨1, 0⟩] ∧
      (after .none (oneOffer ++ asSeven)).peers.roster = [(0, "a")] ∧
      (after .none (oneOffer ++ asSeven)).pairs.pairs = [⟨1, 0⟩, ⟨7, 0⟩] := by
  decide +kernel

end Room

end Rendezvous
