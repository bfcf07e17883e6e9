import Rendezvous.Proofs.Pairing
import Rendezvous.Proofs.Room.Delivery
import Rendezvous.Proofs.Room.Letters
import Rendezvous.Proofs.Room.Members

/-! Who hears of a departure. The three ways for a peer to go end its pairings, and tell every partner
that is there. -/

namespace Rendezvous

def told (x : PeerId) (sent : List Sent) : List ConnectionId :=
  (sent.filter fun m => m.letter.text = (Reply.departed x).text).map Sent.receiver

namespace Room

/-- The number whose pairings an event ends: that of its own peer, unless a sign-out names one. -/
def parted? (room : Room) : Event → Option PeerId
  | .closed v => (room.peers.peerAt? v).map Peer.id
  | .text v document =>
    match Request.parse document with
    | .ok (.signIn _ _) => (room.peers.peerAt? v).map Peer.id
    | .ok (.signOut id) => id.or ((room.peers.peerAt? v).map Peer.id)
    | _ => none

def offer? (room : Room) : Event → Option Pairing
  | .closed _ => none
  | .text v document =>
    match Request.parse document with
    | .ok (.message recipient sender kind) =>
      if (room.peers.connectionOf? recipient).isSome && Request.isOffer kind then
        (room.caller? v sender).map (⟨·, recipient⟩)
      else none
    | _ => none

variable {σ : Type} {ice : Ice} {o : Outlet σ} {s : σ} {up : ConnectionId → Bool} {room : Room}
  {e : Event} {v : ConnectionId} {x y : PeerId}

lemma offer?_eq_some {p : Pairing} : room.offer? e = some p ↔ ∃ v document sender,
    e = .text v document ∧
    Request.parse document = .ok (.message p.callee sender (some Request.offerKind)) ∧
    (room.peers.connectionOf? p.callee).isSome ∧ room.caller? v sender = some p.caller := by
  constructor
  · intro h
    cases e with
    | closed v => exact absurd h (by simp [offer?])
    | text v document =>
      cases hr : Request.parse document with
      | error _ => simp [offer?, hr] at h
      | ok request =>
        cases request with
        | signIn name unlisted => simp [offer?, hr] at h
        | signOut id => simp [offer?, hr] at h
        | exist name => simp [offer?, hr] at h
        | message recipient sender kind =>
          simp only [offer?, hr] at h
          split at h
          · rename_i hoffer
            obtain ⟨hthere, hkind⟩ := (Bool.and_eq_true _ _).mp hoffer
            obtain ⟨caller, hcaller, rfl⟩ := Option.map_eq_some_iff.mp h
            have hkind' : kind = some Request.offerKind := by simpa [Request.isOffer] using hkind
            exact ⟨v, document, sender, rfl, hkind' ▸ hr, hthere, hcaller⟩
          · exact absurd h (by simp)
  · rintro ⟨v, document, sender, rfl, hr, hthere, hcaller⟩
    simp [offer?, hr, hthere, hcaller, Request.isOffer]

section Step

structure Outcome (room : Room) (v : ConnectionId) (parted : Option PeerId) (offer : Option Pairing)
    (turn : Turn) : Prop where
  pairs : turn.room.pairs = offer.elim (parted.elim room.pairs room.pairs.without)
    fun p => room.pairs.add p.caller p.callee
  notices : turn.outbox.notices = parted.elim [] (room.leave v).2.notices

lemma outcome_replace (room : Room) (v : ConnectionId) :
    Outcome room v ((room.peers.peerAt? v).map Peer.id) none (room.replace v) := by
  rw [replace, leave_eq]
  cases room.peers.peerAt? v with
  | none => exact ⟨rfl, rfl⟩
  | some old => exact ⟨rfl, rfl⟩

lemma outcome_signIn {name : String} {unlisted : Bool} :
    Outcome room v ((room.peers.peerAt? v).map Peer.id) none (room.signIn ice v name unlisted) := by
  have h := outcome_replace room v
  exact ⟨h.pairs, h.notices⟩

lemma outcome_signOut {id : Option PeerId} :
    Outcome room v (id.or ((room.peers.peerAt? v).map Peer.id)) none (room.signOut v id) := by
  rw [signOut, leave_eq]
  dsimp only
  cases id.or ((room.peers.peerAt? v).map Peer.id) with
  | none => exact ⟨rfl, rfl⟩
  | some id => exact ⟨rfl, rfl⟩

lemma outcome_close : Outcome room v ((room.peers.peerAt? v).map Peer.id) none (room.close v) := by
  rw [close, leave_eq]
  cases room.peers.peerAt? v with
  | none => exact ⟨rfl, rfl⟩
  | some peer => exact ⟨rfl, rfl⟩

lemma outcome_message {document : String} {recipient : PeerId} {sender : Option PeerId}
    {kind : Option String} (h : Request.parse document = .ok (.message recipient sender kind)) :
    Outcome room v none (room.offer? (.text v document))
      (room.message v document recipient sender kind) := by
  simp only [message, offer?, h]
  cases room.peers.connectionOf? recipient with
  | none => exact ⟨rfl, rfl⟩
  | some target =>
    cases Request.isOffer kind with
    | false => exact ⟨rfl, rfl⟩
    | true =>
      cases room.caller? v sender with
      | none => exact ⟨rfl, rfl⟩
      | some caller => exact ⟨rfl, rfl⟩

lemma outcome_exist {name : String} : Outcome room v none none (room.exist v name) := ⟨rfl, rfl⟩

lemma outcome_step (ice : Ice) (room : Room) (e : Event) :
    Outcome room e.connection (room.parted? e) (room.offer? e) (room.step ice e) := by
  cases e with
  | closed v => exact outcome_close
  | text v document =>
    cases h : Request.parse document with
    | error _ =>
      simp only [step, receive, parted?, offer?, h]
      exact ⟨rfl, rfl⟩
    | ok request =>
      have hanswer : Outcome room v (room.parted? (.text v document)) (room.offer? (.text v document))
          (room.answer ice v document request) := by
        cases request with
        | signIn name unlisted =>
          simp only [parted?, offer?, h]
          exact outcome_signIn
        | signOut id =>
          simp only [parted?, offer?, h]
          exact outcome_signOut
        | message recipient sender kind =>
          have hparted : room.parted? (.text v document) = none := by simp only [parted?, h]
          rw [hparted]
          exact outcome_message h
        | exist name =>
          simp only [parted?, offer?, h]
          exact outcome_exist
      simp only [step, receive, h]
      exact ⟨hanswer.pairs, hanswer.notices⟩

end Step

section Told

lemma told_eq_map (sent : List Sent) : told x sent =
    ((sent.map Sent.address).filter fun a => a.2.text = (Reply.departed x).text).map Prod.fst := by
  unfold told
  rw [List.filter_map, List.map_map]
  rfl

lemma departed_of_mem_notices {n : Notice} (h : n ∈ room.notices x) : n.departed = x := by
  obtain ⟨c, -, hc⟩ := List.mem_filterMap.mp h
  obtain ⟨w, -, rfl⟩ := Option.map_eq_some_iff.mp hc
  rfl

lemma receivers_notices (room : Room) (x : PeerId) (up : ConnectionId → Bool) :
    ((room.notices x).filter fun n => up n.receiver).map Notice.receiver =
    (room.pairs.counterparts x).filterMap fun c => (room.peers.connectionOf? c).filter up := by
  rw [notices, partners, List.filter_filterMap, List.map_filterMap]
  congr 1
  funext c
  cases hc : room.peers.connectionOf? c with
  | none => rfl
  | some w => cases hw : up w <;> simp [Option.filter, hw]

lemma told_act (h : o.Finds (room.step ice e) s up) : told x (room.act ice o s e).2.1 =
    if room.parted? e = some x then
      (room.pairs.counterparts x).filterMap fun c =>
        ((room.leave e.connection).2.peers.connectionOf? c).filter up
    else [] := by
  have houtcome := outcome_step ice room e
  have hletters : ((room.step ice e).outbox.letters.filter fun a =>
      a.2.text = (Reply.departed x).text) = [] := by
    refine List.filter_eq_nil_iff.mpr fun l hl => ?_
    simpa using (issues_step hl).text_ne_departed
  rw [told_eq_map, act_sent h, List.filter_append, hletters, List.nil_append, houtcome.notices]
  cases room.parted? e with
  | none => rfl
  | some z =>
    have hnotices : ∀ n ∈ (room.leave e.connection).2.notices z,
        (n.address.2.text = (Reply.departed x).text ↔ z = x) := by
      intro n hn
      rw [Notice.address, Notice.letter, departed_of_mem_notices hn]
      exact ⟨Reply.departed_injective, fun he => he ▸ rfl⟩
    simp only [Option.elim_some, Option.some.injEq]
    rw [List.filter_map, List.map_map]
    by_cases hz : z = x
    · subst hz
      rw [if_pos rfl, List.filter_eq_self.mpr fun n hn => ?_]
      · exact (room.leave e.connection).2.receivers_notices z up
      · simpa using (hnotices n (List.mem_of_mem_filter hn)).mpr rfl
    · rw [if_neg hz, List.filter_eq_nil_iff.mpr fun n hn => ?_]
      · rfl
      · simpa using mt (hnotices n (List.mem_of_mem_filter hn)).mp hz

end Told

end Room

inductive Departs (p : Peer) : Event → Prop where
  | closed : Departs p (.closed p.connection)
  | signOut {document : String} {id : Option PeerId}
      (h : Request.parse document = .ok (.signOut id)) (hid : id = none ∨ id = some p.id) :
      Departs p (.text p.connection document)
  | signIn {document name : String} {unlisted : Bool}
      (h : Request.parse document = .ok (.signIn name unlisted)) :
      Departs p (.text p.connection document)

namespace Departs

variable {ice : Ice} {room : Room} {p : Peer} {e : Event}

lemma connection_eq (h : Departs p e) : e.connection = p.connection := by
  cases h <;> rfl

lemma parted?_eq (h : Departs p e) (hp : room.peers.peerAt? p.connection = some p) :
    room.parted? e = some p.id := by
  cases h with
  | closed => simp [Room.parted?, hp]
  | signOut h hid => rcases hid with rfl | rfl <;> simp [Room.parted?, h, hp]
  | signIn h => simp [Room.parted?, h, hp]

lemma offer?_eq (h : Departs p e) : room.offer? e = none := by
  cases h with
  | closed => rfl
  | signOut h _ => simp [Room.offer?, h]
  | signIn h => simp [Room.offer?, h]

end Departs

namespace PeerTable

variable {t : PeerTable} {p : Peer} {c : PeerId}

lemma Linked.peerAt?_eq (h : t.Linked) (hp : p ∈ t.peers) : t.peerAt? p.connection = some p := by
  rw [h.mem_peers] at hp
  rw [peerAt?, h.indexed hp, Option.bind_some, hp]

lemma Linked.connectionOf?_signOut (h : t.Linked) (hp : p ∈ t.peers) (hc : c ≠ p.id) :
    (t.signOut p.connection).2.connectionOf? c = t.connectionOf? c := by
  rw [h.mem_peers] at hp
  rw [connectionOf?, byId_signOut, h.indexed hp, if_neg (by simpa using hc.symm)]
  rfl

lemma Linked.connectionOf?_eq_some {w : ConnectionId} (h : t.Linked) :
    t.connectionOf? c = some w ↔ ∃ q ∈ t.peers, q.id = c ∧ q.connection = w := by
  rw [connectionOf?, Option.map_eq_some_iff]
  constructor
  · rintro ⟨q, hq, hw⟩
    obtain rfl := h.keyed hq
    exact ⟨q, h.mem_peers.mpr hq, rfl, hw⟩
  · rintro ⟨q, hq, rfl, hw⟩
    exact ⟨q, h.mem_peers.mp hq, hw⟩

lemma Linked.any_connectionOf? {up : ConnectionId → Bool} (h : t.Linked) :
    (t.connectionOf? c).any up ↔ ∃ q ∈ t.peers, q.id = c ∧ up q.connection := by
  simp only [Option.any_eq_true, h.connectionOf?_eq_some]
  constructor
  · rintro ⟨w, ⟨q, hq, hc, rfl⟩, hw⟩
    exact ⟨q, hq, hc, hw⟩
  · rintro ⟨q, hq, hc, hw⟩
    exact ⟨q.connection, ⟨q, hq, hc, rfl⟩, hw⟩

end PeerTable

namespace Room

variable {σ : Type} {ice : Ice} {o : Outlet σ} {s : σ} {up : ConnectionId → Bool} {room : Room}
  {e : Event} {v : ConnectionId} {p : Peer}

lemma close_of_vacant (h : room.peers.byConnection[v]? = none) :
    room.close v = { room := room, log := [Log.debug "Verbindung ohne Peer geschlossen"] } := by
  have hleave : room.leave v = (none, room) := by
    simp [leave, PeerTable.signOut, h]
  rw [close, hleave]

lemma vacant_of_leave (ice : Ice) (room : Room) (he : e.move = .leave) :
    (room.step ice e).room.peers.byConnection[e.connection]? = none := by
  rw [peers_step, he, PeerTable.move, PeerTable.byConnection_signOut, if_pos rfl]

lemma filter_any_map {f : PeerId → Option ConnectionId} {cs : List PeerId} :
    (cs.filter fun c => (f c).any up).map f = (cs.filterMap fun c => (f c).filter up).map some := by
  induction cs with
  | nil => rfl
  | cons c cs ih =>
    cases hc : f c with
    | none => simpa [hc] using ih
    | some w => cases hw : up w <;> simpa [hc, hw, Option.filter] using ih

lemma nodup_receivers_notices (h : room.peers.Linked) {x : PeerId} :
    ((room.notices x).map Notice.receiver).Nodup := by
  have hreceivers := receivers_notices room x fun _ => true
  rw [List.filter_eq_self.mpr fun _ _ => rfl] at hreceivers
  rw [hreceivers]
  refine List.Nodup.filterMap (fun c d w hc hd => ?_) PairTable.nodup_counterparts
  obtain ⟨q, hq, rfl, hqw⟩ := h.connectionOf?_eq_some.mp (Option.mem_filter_iff.mp hc).1
  obtain ⟨r, hr, rfl, hrw⟩ := h.connectionOf?_eq_some.mp (Option.mem_filter_iff.mp hd).1
  rw [h.connection_injective hq hr (hqw.trans hrw.symm)]

lemma exists_finds_step (es : List Event) : ∃ up, o.Finds ((after ice es).step ice e) s up := by
  refine Outlet.exists_finds ?_
  rw [(outcome_step ice (after ice es) e).notices]
  cases (after ice es).parted? e with
  | none => exact List.Pairwise.nil
  | some x =>
    refine nodup_receivers_notices ?_
    rw [peers_leave]
    exact (linked_after ice es).signOut

theorem act_departs (es : List Event) (hp : p ∈ (after ice es).peers.peers) (he : Departs p e)
    (hup : o.Finds ((after ice es).step ice e) s up) :
    let room := after ice es
    let turn := room.act ice o s e
    turn.1.pairs.pairs = room.pairs.pairs.filter (fun r => !r.mentions p.id) ∧
    (∃ cs : List PeerId,
      cs.Pairwise (room.pairs.firstIndex p.id · < room.pairs.firstIndex p.id ·) ∧
      (∀ c, c ∈ cs ↔ c ≠ p.id ∧ room.pairs.Joins p.id c ∧
        ∃ q ∈ room.peers.peers, q.id = c ∧ up q.connection) ∧
      cs.map room.peers.connectionOf? = (told p.id turn.2.1).map some) ∧
    (e.move = .leave → ∀ t, turn.1.act ice o t (.closed p.connection) =
      (turn.1, [], o.note (Log.debug "Verbindung ohne Peer geschlossen") t)) := by
  intro room turn
  have hlinked : room.peers.Linked := linked_after ice es
  have hparted : room.parted? e = some p.id := he.parted?_eq (hlinked.peerAt?_eq hp)
  have houtcome := outcome_step ice room e
  rw [he.offer?_eq, hparted] at houtcome
  refine ⟨congrArg PairTable.pairs houtcome.pairs,
    ⟨(room.pairs.counterparts p.id).filter fun c => (room.peers.connectionOf? c).any up, ?_, ?_, ?_⟩, ?_⟩
  · exact PairTable.counterparts_ascending.filter _
  · intro c
    rw [List.mem_filter, PairTable.mem_counterparts, hlinked.any_connectionOf?, and_assoc]
  · rw [told_act hup, hparted, if_pos rfl, he.connection_eq, filter_any_map]
    refine congrArg (List.map some) (List.filterMap_congr fun c hc => ?_)
    rw [← hlinked.connectionOf?_signOut hp (PairTable.mem_counterparts.mp hc).1]
    rfl
  · intro hleave t
    have hvacant := vacant_of_leave ice room hleave
    rw [he.connection_eq] at hvacant
    have hclose : turn.1.step ice (.closed p.connection) = _ := close_of_vacant hvacant
    rw [act, hclose]
    rfl

def threeGuests : List Event :=
  [.text 1 "\x7b\"signal\":\"sign_in\",\"name\":\"a\"\x7d",
    .text 2 "\x7b\"signal\":\"sign_in\",\"name\":\"b\"\x7d",
    .text 3 "\x7b\"signal\":\"sign_in\",\"name\":\"c\"\x7d",
    .text 1 "\x7b\"signal\":\"message\",\"to\":2,\"type\":\"offer\"\x7d",
    .text 2 "\x7b\"signal\":\"message\",\"to\":0,\"type\":\"offer\"\x7d"]

def firstGuest : Peer := ⟨0, "a", 1⟩

def onlySecond : Registry := Registry.empty.add .plain ⟨2, 0⟩

def oneMailbox : Exchange := { post := Post.empty.create.2 }

lemma after_threeGuests :
    (after .none threeGuests).peers.byId[(0 : PeerId)]? = some firstGuest ∧
    (after .none threeGuests).peers.connectionOf? 1 = some 2 ∧
    (after .none threeGuests).caller? 1 none = some 0 ∧
    (after .none threeGuests).pairs.pairs = [⟨0, 2⟩, ⟨1, 0⟩] ∧
    told 0 ((after .none threeGuests).act .none (Exchange.outlet onlySecond) oneMailbox
      (.closed 1)).2.1 = [2] := by
  decide +kernel

lemma firstGuest_mem : firstGuest ∈ (after .none threeGuests).peers.peers :=
  PeerTable.mem_peers.mpr ⟨0, after_threeGuests.1⟩

theorem act_departs_firstGuest :
    (firstGuest ∈ (after .none threeGuests).peers.peers ∧
      Departs firstGuest (.closed firstGuest.connection) ∧
      (Exchange.outlet onlySecond).Finds
        ((after .none threeGuests).step .none (.closed firstGuest.connection)) oneMailbox
        (oneMailbox.post.isConnected onlySecond)) ∧
    ((after .none threeGuests).act .none (Exchange.outlet onlySecond) oneMailbox
        (.closed firstGuest.connection)).1.pairs.pairs =
      (after .none threeGuests).pairs.pairs.filter (fun r => !r.mentions firstGuest.id) ∧
    told 0 ((after .none threeGuests).act .none (Exchange.outlet onlySecond) oneMailbox
      (.closed 1)).2.1 = [2] := by
  have hup : (Exchange.outlet onlySecond).Finds
      ((after .none threeGuests).step .none (.closed firstGuest.connection)) oneMailbox
      (oneMailbox.post.isConnected onlySecond) := Exchange.finds_outlet
  have h := act_departs threeGuests firstGuest_mem Departs.closed hup
  obtain ⟨-, -, -, -, htold⟩ := after_threeGuests
  exact ⟨⟨firstGuest_mem, .closed, hup⟩, h.1, htold⟩

end Room

end Rendezvous
