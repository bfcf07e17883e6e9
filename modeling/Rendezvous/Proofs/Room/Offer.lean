import Rendezvous.Proofs.Room.Departure

/-! The pairings after a run are a matter of its history: an offer holds until one of its two numbers
parts. -/

namespace Rendezvous.Room

variable {σ : Type} {ice : Ice} {o : Outlet σ} {s : σ} {up : ConnectionId → Bool} {room : Room}
  {e : Event} {es : List Event} {x y : PeerId}

def offers (room : Room) (e : Event) (x y : PeerId) : Prop := ∃ p, room.offer? e = some p ∧ p.joins x y

def parts (room : Room) (e : Event) (x : PeerId) : Prop := room.parted? e = some x

lemma parted?_of_offer? {p : Pairing} (h : room.offer? e = some p) : room.parted? e = none := by
  obtain ⟨v, document, sender, rfl, hr, -⟩ := offer?_eq_some.mp h
  simp only [parted?, hr]

lemma mem_pairs_step {p : Pairing} : p ∈ (room.step ice e).room.pairs.pairs ↔
    room.offer? e = some p ∨ p ∈ room.pairs.pairs ∧ ∀ x, room.parts e x → p.mentions x = false := by
  rw [(outcome_step ice room e).pairs]
  unfold parts
  cases ho : room.offer? e with
  | some q =>
    rw [parted?_of_offer? ho]
    change p ∈ (room.pairs.add q.caller q.callee).pairs ↔ _
    rw [PairTable.mem_add, or_comm, Option.some.injEq, eq_comm]
    simp
  | none =>
    cases room.parted? e with
    | none => simp
    | some z =>
      change p ∈ (room.pairs.without z).pairs ↔ _
      rw [PairTable.mem_without]
      simp

def Offered (ice : Ice) (es : List Event) (x y : PeerId) : Prop :=
  ∃ pre f post, es = pre ++ f :: post ∧ (after ice pre).offers f x y ∧
    ∀ mid g rest, post = mid ++ g :: rest →
      ¬ (after ice (pre ++ f :: mid)).parts g x ∧ ¬ (after ice (pre ++ f :: mid)).parts g y

lemma concat_eq_append_cons {α : Type} {as bs cs : List α} {a b : α} :
    as ++ [a] = bs ++ b :: cs ↔
      (cs = [] ∧ as = bs ∧ a = b) ∨ ∃ ds, cs = ds ++ [a] ∧ as = bs ++ b :: ds := by
  constructor
  · intro h
    rcases List.eq_nil_or_concat cs with rfl | ⟨ds, c, rfl⟩
    · obtain ⟨has, hab⟩ := List.append_inj' h rfl
      exact Or.inl ⟨rfl, has, List.singleton_inj.mp hab⟩
    · have h' : as ++ [a] = (bs ++ b :: ds) ++ [c] := by simpa using h
      obtain ⟨has, hac⟩ := List.append_inj' h' rfl
      exact Or.inr ⟨ds, by rw [List.singleton_inj.mp hac, List.concat_eq_append], has⟩
  · rintro (⟨rfl, rfl, rfl⟩ | ⟨ds, rfl, rfl⟩)
    · rfl
    · simp

/-- The offer of the pairing has been passed on, and neither of its two numbers has parted since. -/
def Stands (ice : Ice) (es : List Event) (p : Pairing) : Prop :=
  ∃ pre f post, es = pre ++ f :: post ∧ (after ice pre).offer? f = some p ∧
    ∀ mid g rest, post = mid ++ g :: rest →
      ∀ x, (after ice (pre ++ f :: mid)).parts g x → p.mentions x = false

lemma stands_concat {p : Pairing} : Stands ice (es ++ [e]) p ↔ (after ice es).offer? e = some p ∨
    Stands ice es p ∧ ∀ x, (after ice es).parts e x → p.mentions x = false := by
  constructor
  · rintro ⟨pre, f, post, hes, hoffer, hpost⟩
    rcases concat_eq_append_cons.mp hes with ⟨-, rfl, rfl⟩ | ⟨post, rfl, rfl⟩
    · exact Or.inl hoffer
    · refine Or.inr ⟨⟨pre, f, post, rfl, hoffer, fun mid g rest hmid => ?_⟩, hpost post e [] rfl⟩
      exact hpost mid g (rest ++ [e]) (by rw [hmid, List.append_assoc, List.cons_append])
  · rintro (hoffer | ⟨⟨pre, f, post, rfl, hoffer, hpost⟩, hlast⟩)
    · exact ⟨es, e, [], rfl, hoffer, fun mid g rest h => by simp at h⟩
    · refine ⟨pre, f, post ++ [e], by simp, hoffer, fun mid g rest hmid => ?_⟩
      rcases concat_eq_append_cons.mp hmid with ⟨-, rfl, rfl⟩ | ⟨rest, rfl, rfl⟩
      · exact hlast
      · exact hpost mid g rest rfl

lemma mem_pairs_after {p : Pairing} : p ∈ (after ice es).pairs.pairs ↔ Stands ice es p := by
  induction es using List.reverseRecOn with
  | nil =>
    refine iff_of_false List.not_mem_nil ?_
    rintro ⟨pre, f, post, hes, -⟩
    exact absurd hes.symm (List.append_ne_nil_of_right_ne_nil _ (List.cons_ne_nil _ _))
  | append_singleton es e ih => rw [after_concat, mem_pairs_step, stands_concat, ih]

lemma joins_after : (after ice es).pairs.Joins x y ↔ Offered ice es x y := by
  have hparts {p : Pairing} {room : Room} {g : Event} (hj : p.joins x y) :
      (∀ z, room.parts g z → p.mentions z = false) ↔ ¬ room.parts g x ∧ ¬ room.parts g y := by
    simp only [Bool.eq_false_iff, ne_eq, Pairing.mentions_of_joins hj, not_or]
    constructor
    · exact fun h => ⟨fun hx => (h x hx).1 rfl, fun hy => (h y hy).2 rfl⟩
    · rintro ⟨hx, hy⟩ z hz
      exact ⟨fun he => hx (he ▸ hz), fun he => hy (he ▸ hz)⟩
  constructor
  · rintro ⟨p, hp, hj⟩
    obtain ⟨pre, f, post, hes, hoffer, hpost⟩ := mem_pairs_after.mp hp
    exact ⟨pre, f, post, hes, ⟨p, hoffer, hj⟩, fun mid g rest h => (hparts hj).mp (hpost mid g rest h)⟩
  · rintro ⟨pre, f, post, hes, ⟨p, hoffer, hj⟩, hpost⟩
    refine ⟨p, mem_pairs_after.mpr ⟨pre, f, post, hes, hoffer, fun mid g rest h => ?_⟩, hj⟩
    exact (hparts hj).mpr (hpost mid g rest h)

lemma mem_peers_leave (h : room.peers.Linked) {v : ConnectionId} {q : Peer} :
    q ∈ (room.leave v).2.peers.peers ↔ q ∈ room.peers.peers ∧ room.peers.peerAt? v ≠ some q := by
  rw [peers_leave, h.mem_peers_signOut]
  refine and_congr_right fun hq => not_congr ?_
  have hid := h.mem_peers.mp hq
  rw [PeerTable.peerAt?, Option.bind_eq_some_iff]
  constructor
  · exact fun hv => ⟨q.id, hv, hid⟩
  · rintro ⟨id, hv, hown⟩
    rw [hv, h.keyed hown]

theorem mem_told_act_iff (hup : o.Finds ((after ice es).step ice e) s up) {w : ConnectionId} :
    w ∈ told x ((after ice es).act ice o s e).2.1 ↔
      up w = true ∧ (after ice es).parts e x ∧
        ∃ q ∈ (after ice es).peers.peers, q.connection = w ∧ q.id ≠ x ∧
          (after ice es).peers.peerAt? e.connection ≠ some q ∧ Offered ice es x q.id := by
  have hlinked := linked_after ice es
  have hleave : ((after ice es).leave e.connection).2.peers.Linked := hlinked.signOut
  rw [told_act hup]
  unfold parts
  split
  · rename_i hparts
    rw [List.mem_filterMap]
    constructor
    · rintro ⟨c, hc, hw⟩
      obtain ⟨hw, hup⟩ := Option.mem_filter_iff.mp hw
      obtain ⟨q, hq, rfl, rfl⟩ := hleave.connectionOf?_eq_some.mp hw
      obtain ⟨hne, hjoins⟩ := PairTable.mem_counterparts.mp hc
      obtain ⟨hq, hstays⟩ := (mem_peers_leave hlinked).mp hq
      exact ⟨hup, hparts, q, hq, rfl, hne, hstays, joins_after.mp hjoins⟩
    · rintro ⟨hup, -, q, hq, rfl, hne, hstays, hoffered⟩
      refine ⟨q.id, PairTable.mem_counterparts.mpr ⟨hne, joins_after.mpr hoffered⟩, ?_⟩
      refine Option.mem_filter_iff.mpr ⟨?_, hup⟩
      exact hleave.connectionOf?_eq_some.mpr ⟨q, (mem_peers_leave hlinked).mpr ⟨hq, hstays⟩, rfl, rfl⟩
  · rename_i hparts
    refine iff_of_false List.not_mem_nil ?_
    rintro ⟨-, h, -⟩
    exact hparts h

def oneOffer : List Event :=
  [.text 1 "\x7b\"signal\":\"sign_in\",\"name\":\"a\"\x7d",
    .text 2 "\x7b\"signal\":\"sign_in\",\"name\":\"b\"\x7d",
    .text 2 "\x7b\"signal\":\"message\",\"to\":0,\"type\":\"offer\"\x7d"]

lemma after_oneOffer :
    (after .none oneOffer).peers.byId[(1 : PeerId)]? = some ⟨1, "b", 2⟩ ∧
    (after .none oneOffer).pairs.pairs = [⟨1, 0⟩] ∧
    (after .none oneOffer).parted? (.closed 1) = some 0 ∧
    told 0 ((after .none oneOffer).act .none (Exchange.outlet onlySecond) oneMailbox
      (.closed 1)).2.1 = [2] ∧
    told 0 ((after .none oneOffer).act .none (Exchange.outlet .empty) {} (.closed 1)).2.1 = [] := by
  decide +kernel

theorem mem_told_act_iff_oneOffer :
    (Exchange.outlet onlySecond).Finds ((after .none oneOffer).step .none (.closed 1)) oneMailbox
      (oneMailbox.post.isConnected onlySecond) ∧
    ∃ q ∈ (after .none oneOffer).peers.peers, q.connection = 2 ∧ q.id ≠ 0 ∧
      (after .none oneOffer).peers.peerAt? (Event.closed 1).connection ≠ some q ∧
      Offered .none oneOffer 0 q.id := by
  have hup : (Exchange.outlet onlySecond).Finds ((after .none oneOffer).step .none (.closed 1))
      oneMailbox (oneMailbox.post.isConnected onlySecond) := Exchange.finds_outlet
  have htold : 2 ∈ told 0 ((after .none oneOffer).act .none (Exchange.outlet onlySecond) oneMailbox
      (.closed 1)).2.1 := by
    obtain ⟨-, -, -, htold, -⟩ := after_oneOffer
    rw [htold]
    exact List.mem_singleton_self 2
  exact ⟨hup, ((mem_told_act_iff hup).mp htold).2.2⟩

def stranger : List Event :=
  [.text 3 "\x7b\"signal\":\"sign_out\",\"id\":0\x7d", .closed 1,
    .text 1 "\x7b\"signal\":\"sign_in\",\"name\":\"c\"\x7d",
    .text 3 "\x7b\"signal\":\"message\",\"from\":1,\"to\":2,\"type\":\"offer\"\x7d", .closed 1]

theorem told_stranger :
    let sents := (run .none (Exchange.outlet onlySecond) stranger (after .none oneOffer) oneMailbox).1
    sents.map (told 0) = [[2], [], [], [], []] ∧ sents.map (told 2) = [[], [], [], [], [2]] ∧
      (after .none oneOffer).peers.roster = [(0, "a"), (1, "b")] ∧
      (after .none (oneOffer ++ stranger.take 1)).peers.roster = [(0, "a"), (1, "b")] ∧
      (after .none (oneOffer ++ stranger.take 2)).peers.roster = [(1, "b")] := by
  decide +kernel

end Rendezvous.Room
