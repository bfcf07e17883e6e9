import Rendezvous.Exchange
import Rendezvous.Proofs.Room.Members

/-! The lives of connections, interleaved in any way, under the worker: whoever is in the room sits
on a registered connection, and nobody is left when it has unsubscribed. -/

namespace Rendezvous

inductive Stage where
  | fresh
  | up (l : Listener)
  | over
deriving DecidableEq

def Stage.next? : Stage → Action → Option Stage
  | .fresh, .subscribe l _ => some (.up l)
  | .up l, .message _ _ => some (.up l)
  | .up _, .unsubscribe _ => some .over
  | _, _ => none

namespace Action

def stage? (v : ConnectionId) (as : List Action) : Option Stage :=
  (as.filter fun a => a.connection? == some v).foldlM Stage.next? .fresh

def Lifecycles (as : List Action) : Prop := ∀ v, (stage? v as).isSome

def processed (as : List Action) : List Action := as.takeWhile (· ≠ .exit)

variable {as bs : List Action} {a : Action} {v w : ConnectionId}

lemma processed_cons (h : a ≠ .exit) : processed (a :: as) = a :: processed as :=
  List.takeWhile_cons_of_pos (by simpa using h)

lemma processed_prefix (h : as <+: bs) : processed as <+: processed bs := by
  obtain ⟨rest, rfl⟩ := h
  induction as with
  | nil => exact List.nil_prefix
  | cons a as ih =>
    by_cases ha : a = .exit
    · subst ha
      exact List.nil_prefix
    · rw [List.cons_append, processed_cons ha, processed_cons ha]
      exact List.prefix_cons_inj a |>.mpr ih

lemma stage?_concat (h : a.connection? = some v) :
    stage? v (as ++ [a]) = (stage? v as).bind (·.next? a) := by
  simp [stage?, List.foldlM_append, h]

lemma stage?_concat_of_ne (h : a.connection? ≠ some v) : stage? v (as ++ [a]) = stage? v as := by
  simp [stage?, h]

lemma Lifecycles.of_append (h : Lifecycles (as ++ bs)) : Lifecycles as := by
  intro v
  have hv := h v
  unfold stage? at *
  rw [List.filter_append, List.foldlM_append] at hv
  cases hs : (as.filter fun a => a.connection? == some v).foldlM Stage.next? .fresh with
  | none => simp [hs] at hv
  | some _ => rfl

lemma Lifecycles.fresh_of_subscribe {l : Listener} {h : Handle}
    (hl : Lifecycles (as ++ [.subscribe l h])) : stage? h.connection as = some .fresh := by
  have hv := hl h.connection
  rw [stage?_concat rfl] at hv
  rcases hs : stage? h.connection as with _ | ⟨_ | _ | _⟩ <;> simp_all [Stage.next?]

lemma Lifecycles.up_of_message {payload : Payload} (hl : Lifecycles (as ++ [.message v payload])) :
    ∃ l, stage? v as = some (.up l) := by
  have hv := hl v
  rw [stage?_concat rfl] at hv
  rcases hs : stage? v as with _ | ⟨_ | _ | _⟩ <;> simp_all [Stage.next?]

lemma Lifecycles.up_of_unsubscribe (hl : Lifecycles (as ++ [.unsubscribe v])) :
    ∃ l, stage? v as = some (.up l) := by
  have hv := hl v
  rw [stage?_concat rfl] at hv
  rcases hs : stage? v as with _ | ⟨_ | _ | _⟩ <;> simp_all [Stage.next?]

lemma Lifecycles.over_of_mem (hl : Lifecycles as) (h : .unsubscribe v ∈ as) :
    stage? v as = some .over := by
  induction as using List.reverseRecOn with
  | nil => simp at h
  | append_singleton as a ih =>
    have hv := hl v
    rcases List.mem_append.mp h with hold | hnew
    · have hover := ih hl.of_append hold
      by_cases ha : a.connection? = some v
      · rw [stage?_concat ha, hover] at hv
        cases a <;> simp [Stage.next?] at hv
      · rw [stage?_concat_of_ne ha, hover]
    · obtain rfl := List.mem_singleton.mp hnew
      obtain ⟨l, hup⟩ := hl.up_of_unsubscribe
      rw [stage?_concat rfl, hup]
      rfl

end Action

namespace Registry

def lists (r : Registry) (v : ConnectionId) : Listener → Prop
  | .plain => v ∈ r.plain
  | .tls => v ∈ r.tls

variable {r : Registry} {v w : ConnectionId} {l m : Listener}

lemma find?_isSome : (r.find? v).isSome ↔ ∃ l, r.lists v l := by
  simp only [find?, Option.isSome_or, Bool.or_eq_true, ← Std.TreeMap.mem_iff_isSome_getElem?]
  constructor
  · rintro (h | h)
    · exact ⟨.plain, h⟩
    · exact ⟨.tls, h⟩
  · rintro ⟨_ | _, h⟩
    · exact Or.inl h
    · exact Or.inr h

lemma lists_add {h : Handle} :
    (r.add l h).lists v m ↔ (h.connection = v ∧ l = m) ∨ r.lists v m := by
  cases l <;> cases m <;> simp [add, lists, Std.TreeMap.mem_insert]

lemma remove_fst_isSome : (r.remove v).1.isSome ↔ ∃ l, r.lists v l := by
  rw [← find?_isSome]
  unfold remove find?
  by_cases hp : v ∈ r.plain
  · simp [hp]
  · by_cases ht : v ∈ r.tls <;> simp [hp, ht]

lemma lists_remove (hv : r.lists v l) (honly : ∀ m, r.lists v m → m = l) :
    (r.remove v).2.lists w m ↔ v ≠ w ∧ r.lists w m := by
  unfold remove
  cases l with
  | plain =>
    have hp : r.plain.contains v := hv
    have ht : ¬ r.lists v .tls := fun ht => absurd (honly .tls ht) (by simp)
    rw [if_pos hp]
    cases m with
    | plain => simp [lists, Std.TreeMap.mem_erase]
    | tls => exact ⟨fun h => ⟨fun he => ht (he ▸ h), h⟩, And.right⟩
  | tls =>
    have ht : r.tls.contains v := hv
    have hp : ¬ r.plain.contains v := fun hp => absurd (honly .plain hp) (by simp)
    rw [if_neg hp, if_pos ht]
    cases m with
    | plain => exact ⟨fun h => ⟨fun he => hp (he ▸ h), h⟩, And.right⟩
    | tls => simp [lists, Std.TreeMap.mem_erase]

end Registry

namespace PeerTable

variable {t : PeerTable} {v : ConnectionId} {m : Move} {p : Peer}

lemma mem_move (hp : p ∈ (t.move v m).peers) : p ∈ t.peers ∨ p.connection = v := by
  rw [mem_peers] at hp ⊢
  obtain ⟨id, hp⟩ := hp
  cases m with
  | stay => exact Or.inl ⟨id, hp⟩
  | leave => exact Or.inl ⟨id, (byId_of_signOut hp).2⟩
  | enter name =>
    rw [move, byId_signIn] at hp
    split at hp
    · exact Or.inr (congrArg Peer.connection (Option.some.inj hp).symm)
    · exact Or.inl ⟨id, (byId_of_signOut hp).2⟩

lemma mem_move_leave (h : t.Linked) (hp : p ∈ (t.move v .leave).peers) :
    p ∈ t.peers ∧ v ≠ p.connection := by
  rw [mem_peers] at hp ⊢
  obtain ⟨id, hp⟩ := hp
  exact ⟨⟨id, (byId_of_signOut hp).2⟩, (h.connection_ne_of_signOut hp).symm⟩

end PeerTable

namespace Worker

variable (ice : Ice)

/-- What an action does to the registry and the room; mailboxes and the log have no part in it. -/
def take (c : Registry × Room) : Action → Registry × Room
  | .subscribe l h => (c.1.add l h, c.2)
  | .unsubscribe v =>
    if (c.1.remove v).1.isSome then ((c.1.remove v).2, (c.2.step ice (.closed v)).room) else c
  | .message v (.text s) => (c.1, (c.2.step ice (.text v s)).room)
  | .message _ (.binary _) => c
  | .exit => c

def core (w : Worker Exchange) : Registry × Room := (w.registry, w.state.room)

lemma core_step (w : Worker Exchange) (a : Action) :
    (w.step (Exchange.handler ice) a).core = take ice w.core a := by
  cases a with
  | subscribe l h => rfl
  | unsubscribe v =>
    rcases hr : w.registry.remove v with ⟨_ | l, r⟩
    all_goals
      simp only [step, process, unsubscribe, take, core, note, hr]
      rfl
  | message v payload => cases payload <;> rfl
  | exit => rfl

lemma core_drain (as : List Action) (w : Worker Exchange) :
    (drain (Exchange.handler ice) as w).2.2.core =
      (Action.processed as).foldl (take ice) w.core := by
  induction as generalizing w with
  | nil => rfl
  | cons a as ih =>
    by_cases ha : a = .exit
    · subst ha
      exact core_step ice w .exit
    · have hd : drain (Exchange.handler ice) (a :: as) w =
          drain (Exchange.handler ice) as (w.step (Exchange.handler ice) a) := by
        cases a <;> first | rfl | exact absurd rfl ha
      rw [hd, ih, core_step, Action.processed_cons ha]
      rfl

lemma core_run (as : List Action) (w : Worker Exchange) :
    (run (Exchange.handler ice) ⟨as⟩ w).2.core =
      (Action.processed as).foldl (take ice) w.core := by
  have hd := core_drain ice as (w.start (Exchange.handler ice))
  unfold run
  rcases hr : drain (Exchange.handler ice) as (w.start (Exchange.handler ice)) with ⟨stopped, rest, u⟩
  rw [hr] at hd
  cases stopped with
  | false => exact hd
  | true =>
    change (u.finish (Exchange.handler ice) rest).core = _
    have hu : u.core = (Action.processed as).foldl (take ice) w.core := hd
    rw [← hu]
    unfold finish
    cases rest.isEmpty <;> rfl

structure Orderly (as : List Action) (c : Registry × Room) : Prop where
  linked : c.2.peers.Linked
  listed : ∀ {v l}, c.1.lists v l ↔ Action.stage? v as = some (.up l)
  seated : ∀ {p}, p ∈ c.2.peers.peers → ∃ l, c.1.lists p.connection l

namespace Orderly

variable {ice} {as : List Action} {c : Registry × Room} {a : Action}

lemma start (room : Room) (h : room = .empty) : Orderly [] (.empty, room) where
  linked := by rw [h]; exact PeerTable.consistent_empty.toLinked
  listed {v l} := by cases l <;> simp [Registry.lists, Registry.empty, Action.stage?]
  seated {p} hp := by
    rw [h, PeerTable.mem_peers] at hp
    simp [Room.empty, PeerTable.empty] at hp

lemma listed_concat_of_ne {v : ConnectionId} {l : Listener} (h : Orderly as c)
    (ha : a.connection? ≠ some v) : c.1.lists v l ↔ Action.stage? v (as ++ [a]) = some (.up l) := by
  rw [Action.stage?_concat_of_ne ha]
  exact h.listed

lemma subscribe {l : Listener} {handle : Handle} (h : Orderly as c)
    (hl : Action.Lifecycles (as ++ [.subscribe l handle])) :
    Orderly (as ++ [.subscribe l handle]) (take ice c (.subscribe l handle)) := by
  have hfresh := hl.fresh_of_subscribe
  refine ⟨h.linked, fun {v m} => ?_, fun hp => ?_⟩
  · rw [Worker.take, Registry.lists_add]
    by_cases hv : handle.connection = v
    · subst hv
      rw [h.listed, Action.stage?_concat rfl, hfresh]
      simp [Stage.next?]
    · have hne : (Action.subscribe l handle).connection? ≠ some v := by
        simpa [Action.connection?] using hv
      rw [h.listed_concat_of_ne hne]
      simp [hv]
  · obtain ⟨m, hm⟩ := h.seated hp
    exact ⟨m, Registry.lists_add.mpr (Or.inr hm)⟩

lemma unsubscribe {v : ConnectionId} (h : Orderly as c)
    (hl : Action.Lifecycles (as ++ [.unsubscribe v])) :
    Orderly (as ++ [.unsubscribe v]) (take ice c (.unsubscribe v)) := by
  obtain ⟨l, hup⟩ := hl.up_of_unsubscribe
  have hlist : c.1.lists v l := h.listed.mpr hup
  have honly : ∀ m, c.1.lists v m → m = l := by
    intro m hm
    simpa [hup, eq_comm] using h.listed.mp hm
  have hpeers := Room.peers_step ice c.2 (.closed v)
  rw [Worker.take, if_pos (Registry.remove_fst_isSome.mpr ⟨l, hlist⟩)]
  refine ⟨by rw [hpeers]; exact h.linked.move, fun {w m} => ?_, fun {p} hp => ?_⟩
  · rw [Registry.lists_remove hlist honly]
    by_cases hw : v = w
    · subst hw
      rw [Action.stage?_concat rfl, hup]
      simp [Stage.next?]
    · rw [← h.listed_concat_of_ne (by simpa [Action.connection?] using hw)]
      simp [hw]
  · rw [hpeers] at hp
    obtain ⟨hold, hne⟩ := PeerTable.mem_move_leave h.linked hp
    obtain ⟨m, hm⟩ := h.seated hold
    exact ⟨m, (Registry.lists_remove hlist honly).mpr ⟨hne, hm⟩⟩

lemma message {v : ConnectionId} {payload : Payload} (h : Orderly as c)
    (hl : Action.Lifecycles (as ++ [.message v payload])) :
    Orderly (as ++ [.message v payload]) (take ice c (.message v payload)) := by
  obtain ⟨l, hup⟩ := hl.up_of_message
  have hlisted : ∀ {w m}, c.1.lists w m ↔
      Action.stage? w (as ++ [.message v payload]) = some (.up m) := by
    intro w m
    by_cases hw : v = w
    · subst hw
      rw [h.listed, Action.stage?_concat rfl, hup]
      rfl
    · exact h.listed_concat_of_ne (by simpa [Action.connection?] using hw)
  cases payload with
  | binary _ => exact ⟨h.linked, hlisted, h.seated⟩
  | text s =>
    have hpeers := Room.peers_step ice c.2 (.text v s)
    refine ⟨by rw [Worker.take, hpeers]; exact h.linked.move, hlisted, fun {p} hp => ?_⟩
    rw [Worker.take, hpeers] at hp
    rcases PeerTable.mem_move hp with hold | hnew
    · exact h.seated hold
    · exact ⟨l, hnew ▸ h.listed.mpr hup⟩

lemma take (h : Orderly as c) (hl : Action.Lifecycles (as ++ [a])) :
    Orderly (as ++ [a]) (take ice c a) := by
  cases a with
  | subscribe l handle => exact h.subscribe hl
  | unsubscribe v => exact h.unsubscribe hl
  | message v payload => exact h.message hl
  | exit => exact ⟨h.linked, h.listed_concat_of_ne (by simp [Action.connection?]), h.seated⟩

lemma foldl (room : Room) (hr : room = .empty) (hl : Action.Lifecycles as) :
    Orderly as (as.foldl (Worker.take ice) (.empty, room)) := by
  induction as using List.reverseRecOn with
  | nil => exact start room hr
  | append_singleton as a ih =>
    rw [List.foldl_concat]
    exact (ih hl.of_append).take hl

lemma size_le (h : Orderly as c) :
    c.2.peers.size ≤ c.1.countOf .plain + c.1.countOf .tls := by
  let connections := c.2.peers.peers.map Peer.connection
  have hnodup : connections.Nodup := by
    refine List.Nodup.map_on (fun p hp q hq => h.linked.connection_injective hp hq) ?_
    exact h.linked.peers_ascending.imp fun hlt he => by
      rw [he] at hlt
      exact Int.lt_irrefl _ hlt
  have hsub : connections ⊆ c.1.plain.keys ++ c.1.tls.keys := by
    intro v hv
    obtain ⟨p, hp, rfl⟩ := List.mem_map.mp hv
    obtain ⟨l, hl⟩ := h.seated hp
    rw [List.mem_append, Std.TreeMap.mem_keys, Std.TreeMap.mem_keys]
    cases l with
    | plain => exact Or.inl hl
    | tls => exact Or.inr hl
  have hlen := (hnodup.subperm hsub).length_le
  simpa only [connections, List.length_map, PeerTable.length_peers, List.length_append,
    Std.TreeMap.length_keys, Registry.countOf] using hlen

lemma connection_ne (h : Orderly as c) (hl : Action.Lifecycles as) {v : ConnectionId}
    (hv : .unsubscribe v ∈ as) {p : Peer} (hp : p ∈ c.2.peers.peers) : p.connection ≠ v := by
  rintro rfl
  obtain ⟨l, hlist⟩ := h.seated hp
  have hup := h.listed.mp hlist
  rw [hl.over_of_mem hv] at hup
  exact absurd hup (by simp)

end Orderly

theorem run_peers_connected (x : Exchange) (hx : x.room = .empty) (as pre : List Action)
    (hl : Action.Lifecycles (Action.processed as)) (hpre : pre <+: as) :
    let w := (run (Exchange.handler ice) ⟨pre⟩ { state := x }).2
    (∀ p ∈ w.state.room.peers.peers, (w.registry.find? p.connection).isSome) ∧
    w.state.room.peers.size ≤ w.registry.countOf .plain + w.registry.countOf .tls ∧
    ∀ v, .unsubscribe v ∈ Action.processed pre →
      ∀ p ∈ w.state.room.peers.peers, p.connection ≠ v := by
  intro w
  obtain ⟨rest, hrest⟩ := Action.processed_prefix hpre
  have hlpre : Action.Lifecycles (Action.processed pre) := .of_append (hrest ▸ hl)
  have ho : Orderly (Action.processed pre) w.core := by
    rw [core_run]
    exact .foldl x.room hx hlpre
  exact ⟨fun p hp => Registry.find?_isSome.mpr (ho.seated hp), ho.size_le,
    fun v hv p hp => ho.connection_ne hlpre hv hp⟩

def twoLives : List Action :=
  [.subscribe .plain ⟨1, 0⟩, .subscribe .tls ⟨2, 1⟩,
    .message 1 (.text "\x7b\"signal\":\"sign_in\",\"name\":\"a\"\x7d"),
    .message 2 (.text "\x7b\"signal\":\"sign_in\",\"name\":\"b\"\x7d"), .unsubscribe 1,
    .message 2 (.text "\x7b\"signal\":\"sign_out\",\"id\":0\x7d"), .exit, .unsubscribe 2]

theorem lifecycles_twoLives : Action.Lifecycles (Action.processed twoLives) := by
  intro v
  by_cases h₁ : v = 1
  · subst h₁
    decide
  by_cases h₂ : v = 2
  · subst h₂
    decide
  · have hne : Action.stage? v (Action.processed twoLives) = some .fresh := by
      simp [Action.processed, twoLives, Action.stage?, Action.connection?,
        Ne.symm h₁, Ne.symm h₂]
    rw [hne]
    rfl

theorem run_peers_connected_twoLives :
    Action.Lifecycles (Action.processed twoLives) ∧
      ∀ p ∈ (run (Exchange.handler .none) ⟨twoLives⟩ { state := {} }).2.state.room.peers.peers,
        p.connection ≠ 1 :=
  ⟨lifecycles_twoLives, (run_peers_connected .none {} rfl twoLives twoLives lifecycles_twoLives
    (List.prefix_refl _)).2.2 1 (by decide)⟩

end Worker

end Rendezvous
