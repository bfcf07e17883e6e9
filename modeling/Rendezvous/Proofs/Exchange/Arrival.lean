import Rendezvous.Proofs.Exchange.Account
import Rendezvous.Proofs.Exchange.Sending

/-! What the room sends to a connection arrives in order, except for what finds the mailbox full or
its receiver gone, and for what still waits when the receiver goes. All of it is sent between
subscription and unsubscription. -/

namespace Rendezvous

def Action.event? (r : Registry) : Action → Option Event
  | .message v (.text s) => some (.text v s)
  | .unsubscribe v => (r.find? v).map fun _ => .closed v
  | _ => none

lemma Action.event?_cases {r : Registry} {a : Action} {e : Event} (h : a.event? r = some e) :
    (∃ v s, a = .message v (.text s) ∧ e = .text v s) ∨
      ∃ v, a = .unsubscribe v ∧ e = .closed v := by
  cases a with
  | subscribe l handle => cases h
  | unsubscribe v =>
    obtain ⟨k, -, rfl⟩ := Option.map_eq_some_iff.mp h
    exact Or.inr ⟨v, rfl, rfl⟩
  | message v p =>
    cases p with
    | text s => exact Or.inl ⟨v, s, rfl, (Option.some.inj h).symm⟩
    | binary bs => cases h
  | exit => cases h

lemma Dispatch.arrives_iff {d : Dispatch} {m : Mailbox} (hm : d.found = some m) :
    d.arrives ↔ m.abandoned = false ∧ m.orders.length < 256 := by
  rw [Dispatch.arrives, hm, Option.any_some, Bool.and_eq_true, Bool.not_eq_true',
    decide_eq_true_eq, Mailbox.capacity]

lemma Dispatch.full_or_abandoned {d : Dispatch} {m : Mailbox} (hm : d.found = some m)
    (hbounded : m.orders.length ≤ 256) (hfails : d.arrives = false) :
    m.orders.length = 256 ∨ m.abandoned := by
  have hnot : ¬ (m.abandoned = false ∧ m.orders.length < 256) :=
    (Dispatch.arrives_iff hm).not.mp (Bool.eq_false_iff.mp hfails)
  cases hgone : m.abandoned with
  | true => exact Or.inr rfl
  | false => exact Or.inl (Nat.le_antisymm hbounded (Nat.not_lt.mp fun h => hnot ⟨hgone, h⟩))

lemma Room.addressed_of_event?_eq_none {room : Room} {r : Registry} {a : Action}
    {u v : ConnectionId} (h : a.event? r = none) : room.addressed u v a = [] := by
  cases a with
  | message w p =>
    cases p with
    | text s => cases h
    | binary bs => rfl
  | subscribe | unsubscribe | exit => rfl

namespace Traffic

variable {ice : Ice} {a : Action} {as pre : List Action}

lemma dispatches_note {e : Log.Entry} {t : Traffic} : (note e t).dispatches = t.dispatches :=
  dispatches_pause

lemma room_note {e : Log.Entry} {t : Traffic} : (note e t).exchange.room = t.exchange.room :=
  room_pause

lemma step_cases (ice : Ice) (w : Worker Traffic) (a : Action) :
    (a.event? w.registry = none ∧
      (w.step (handler ice) a).state.dispatches = w.state.dispatches) ∨
    ∃ (e : Event) (t : Traffic), a.event? w.registry = some e ∧ t.dispatches = w.state.dispatches ∧
      t.exchange.room = w.state.exchange.room ∧
      (w.step (handler ice) a).state = (t.act ice (w.registry.enact a) e).2 := by
  cases a with
  | subscribe l h => exact Or.inl ⟨rfl, dispatches_note.trans dispatches_note⟩
  | unsubscribe v =>
    let u := w.note (handler ice) (Log.trace "Action entnommen")
    change _ ∧ (u.unsubscribe (handler ice) v).state.dispatches = _ ∨ ∃ (e : Event) (t : Traffic),
      _ ∧ _ ∧ _ ∧ (u.unsubscribe (handler ice) v).state = _
    cases hv : w.registry.find? v with
    | none =>
      have hu : u.registry.find? v = none := hv
      rw [Worker.unsubscribe_of_none hu]
      exact Or.inl ⟨by rw [Action.event?, hv]; rfl, dispatches_note.trans dispatches_note⟩
    | some k =>
      have hu : u.registry.find? v = some k := hv
      rw [Worker.unsubscribe_of_some hu]
      exact Or.inr ⟨.closed v, _, by rw [Action.event?, hv]; rfl,
        dispatches_note.trans dispatches_note, room_note.trans room_note, rfl⟩
  | message v p =>
    cases p with
    | text s => exact Or.inr ⟨.text v s, _, rfl, dispatches_note, room_note, rfl⟩
    | binary bs => exact Or.inl ⟨rfl, dispatches_note.trans dispatches_note⟩
  | exit => exact Or.inl ⟨rfl, dispatches_note⟩

lemma step_dispatches (ice : Ice) (w : Worker Traffic) (a : Action) :
    ∃ ds, (w.step (handler ice) a).state.dispatches = w.state.dispatches ++ ds ∧
      (∀ d ∈ ds, ∃ e l, a.event? w.registry = some e ∧
        d.place = (w.registry.enact a).find? d.receiver ∧
        Room.Posts (w.state.exchange.room.step ice e) d.receiver l) ∧
      ∀ u v, (passed u v ds).map Dispatch.text = w.state.exchange.room.addressed u v a := by
  rcases step_cases ice w a with ⟨he, hsame⟩ | ⟨e, t, he, hbefore, hroom, hstate⟩
  · refine ⟨[], by rw [hsame, List.append_nil], List.forall_mem_nil _, fun u v => ?_⟩
    rw [Room.addressed_of_event?_eq_none he]
    rfl
  · obtain ⟨ds, hds, hof⟩ := act_dispatches ice t (w.registry.enact a) e
    have hof : Of ice t (w.registry.enact a) e ds := hof
    refine ⟨ds, by rw [hstate, hds, hbefore], fun d hd => ?_, fun u v => ?_⟩
    · obtain ⟨-, hplace, l, hposts⟩ := hof.call_of_mem hd
      exact ⟨e, l, he, hplace, hroom ▸ hposts⟩
    · rcases Action.event?_cases he with ⟨w', s, rfl, rfl⟩ | ⟨w', rfl, rfl⟩
      · rw [hof.passed_text, hroom]
      · rw [hof.passed_eq_nil fun d hd => by rw [Dispatch.passes, hd]]
        rfl

lemma receiver_up {c : Registry × Room} {e : Event} {v : ConnectionId} {l : Letter}
    (ho : Worker.Orderly pre c) (hl : Action.Lifecycles (pre ++ [a])) (he : a.event? c.1 = some e)
    (hv : Room.Posts (c.2.step ice e) v l) :
    (∃ m, Action.stage? v pre = some (.up m)) ∧ a ≠ .unsubscribe v := by
  -- A reply goes to whom the text came from, everything else to a peer's connection.
  rcases Room.receiver_step ho.linked hv with ⟨text, rfl⟩ | ⟨⟨p, hp, rfl⟩, hne⟩
  · rcases Action.event?_cases he with ⟨w, s, rfl, hw⟩ | ⟨w, -, hw⟩
    · obtain ⟨rfl, rfl⟩ := Event.text.inj hw
      exact ⟨hl.up_of_message, nofun⟩
    · cases hw
  · obtain ⟨m, hm⟩ := ho.seated hp
    refine ⟨⟨m, ho.listed.mp hm⟩, ?_⟩
    rintro rfl
    rcases Action.event?_cases he with ⟨w, s, hw, -⟩ | ⟨w, hw, rfl⟩
    · cases hw
    · exact hne (congrArg Event.closed (Action.unsubscribe.inj hw).symm)

/-- The texts that `u` addresses to the peer of `v` in the course of the actions, each at the time
when that peer is there. -/
def addressed (ice : Ice) (u v : ConnectionId) : List Action → Registry × Room → List String
  | [], _ => []
  | a :: as, c => c.2.addressed u v a ++ addressed ice u v as (Worker.take ice c a)

lemma addressed_concat {u v : ConnectionId} {c : Registry × Room} :
    addressed ice u v (pre ++ [a]) c =
      addressed ice u v pre c ++ (pre.foldl (Worker.take ice) c).2.addressed u v a := by
  induction pre generalizing c with
  | nil => exact List.append_nil _
  | cons b pre ih => rw [List.cons_append, addressed, ih, addressed, List.append_assoc]; rfl

def core (w : Worker Traffic) : Registry × Room := (w.registry, w.state.exchange.room)

lemma core_foldl (w : Worker Traffic) :
    core (pre.foldl (Worker.step (handler ice)) w) = pre.foldl (Worker.take ice) (core w) := by
  let x : Worker Exchange := ⟨w.registry, w.statistics, w.state.exchange⟩
  have hagree : x.Agrees (fun x t => x.room = t.exchange.room) w := ⟨rfl, rfl, rfl⟩
  have hlater := hagree.foldl (handler_rooms ice) pre
  have hcore := Worker.core_foldl ice pre x
  rw [Worker.core, hlater.registry, hlater.state] at hcore
  exact hcore

structure Sends (ice : Ice) (v : ConnectionId) (k : MailboxKey) (pre : List Action)
    (ds : List Dispatch) : Prop where
  places : ∀ d ∈ ds, d.receiver = v ↔ d.place = some k
  passed : ∀ u, (passed u v ds).map Dispatch.text = addressed ice u v pre (.empty, .empty)

section Run

variable {w : Worker Traffic} {v : ConnectionId} {k : MailboxKey} {l : Listener}

lemma step_sends (ice : Ice) (hw : core w = (.empty, .empty)) (hl : Action.Lifecycles as)
    (happart : Action.Apart as) (hv : .subscribe l ⟨v, k⟩ ∈ as) (hpre : pre ++ [a] <+: as) :
    let before := pre.foldl (Worker.step (handler ice)) w
    ∃ ds, (before.step (handler ice) a).state.dispatches = before.state.dispatches ++ ds ∧
      (∀ d ∈ ds, (d.receiver = v ↔ d.place = some k) ∧
        (∃ m, Action.stage? d.receiver pre = some (.up m)) ∧ a ≠ .unsubscribe d.receiver) ∧
      ∀ u, (passed u v ds).map Dispatch.text =
        (pre.foldl (Worker.take ice) (.empty, .empty)).2.addressed u v a := by
  intro before
  have hcore : core before = pre.foldl (Worker.take ice) (.empty, .empty) := by
    rw [core_foldl, hw]
  have hlives : Action.Lifecycles (pre ++ [a]) := by
    obtain ⟨rest, rfl⟩ := hpre
    exact hl.of_append
  have ho : Worker.Orderly pre (core before) := by
    rw [hcore]
    exact .foldl _ rfl hlives.of_append
  have hfind := Worker.find?_iff ice hl happart hv hpre
  have hregistry : ((pre ++ [a]).foldl (Worker.take ice) (.empty, .empty)).1 =
      before.registry.enact a := by
    rw [List.foldl_concat, Worker.take_fst, ← hcore]
    rfl
  rw [hregistry] at hfind
  obtain ⟨ds, hds, hnew, hpassed⟩ := step_dispatches ice before a
  refine ⟨ds, hds, fun d hd => ?_, fun u => ?_⟩
  · -- The receiver is up when the registry is asked for it, so it is found with its own mailbox.
    obtain ⟨e, letter, he, hplace, hposts⟩ := hnew d hd
    obtain ⟨⟨m, hup⟩, hne⟩ := receiver_up ho hlives he hposts
    refine ⟨⟨fun hreceiver => ?_, fun hk => hfind.1 _ (hplace ▸ hk)⟩, ⟨m, hup⟩, hne⟩
    rw [hreceiver] at hup hne hplace
    rw [hplace]
    exact hfind.2 ⟨m, hlives.up_concat hup hne⟩
  · rw [hpassed, ← hcore]
    rfl

lemma sends_foldl (hw : core w = (.empty, .empty)) (hnone : w.state.dispatches = [])
    (hl : Action.Lifecycles as) (happart : Action.Apart as) (hv : .subscribe l ⟨v, k⟩ ∈ as)
    (hpre : pre <+: as) :
    Sends ice v k pre (pre.foldl (Worker.step (handler ice)) w).state.dispatches := by
  induction pre using List.reverseRecOn with
  | nil =>
    rw [List.foldl_nil, hnone]
    exact ⟨List.forall_mem_nil _, fun _ => rfl⟩
  | append_singleton pre a ih =>
    have hbefore := ih ((List.prefix_append pre [a]).trans hpre)
    obtain ⟨ds, hds, hnew, hpassed⟩ := step_sends ice hw hl happart hv hpre
    rw [List.foldl_concat, hds]
    refine ⟨fun d hd => ?_, fun u => ?_⟩
    · rcases List.mem_append.mp hd with hold | hd
      · exact hbefore.places d hold
      · exact (hnew d hd).1
    · rw [passed_append, List.map_append, hbefore.passed, hpassed, addressed_concat]

lemma dispatches_notes {es : List Log.Entry} :
    (es.foldl (fun w e => w.note (handler ice) e) w).state.dispatches = w.state.dispatches := by
  induction es generalizing w with
  | nil => rfl
  | cons e es ih => exact ih.trans dispatches_note

lemma dispatches_run (ice : Ice) (as : List Action) (w : Worker Traffic) :
    (Worker.run (handler ice) ⟨as⟩ w).2.state.dispatches =
      ((Action.processed as).foldl (Worker.step (handler ice))
        (w.start (handler ice))).state.dispatches := by
  obtain ⟨es, hrun⟩ := Worker.run_eq (handler ice) as w
  rw [hrun, dispatches_notes]

lemma dispatches_run_of_prefix (hpre : pre <+: Action.processed as) :
    (Worker.run (handler ice) ⟨pre⟩ w).2.state.dispatches =
      (pre.foldl (Worker.step (handler ice)) (w.start (handler ice))).state.dispatches := by
  rw [dispatches_run, Action.processed_of_prefix hpre]

def after (ice : Ice) (x : Exchange) (ahead : List (List Clearing)) (as : List Action) : Traffic :=
  (Worker.run (handler ice) ⟨as⟩ { state := { exchange := x, ahead := ahead } }).2.state

def calls (v : ConnectionId) (t : Traffic) : List Dispatch :=
  t.dispatches.filter fun d => d.receiver = v

/-- What becomes of the calls for `v`, whose mailbox is `k`. Those that have been let in are `arrived`,
which the receiver gets, and `lost`, which were still waiting when the mailbox was given up. -/
structure Delivers (ice : Ice) (x : Exchange) (ahead : List (List Clearing)) (as : List Action)
    (v : ConnectionId) (k : MailboxKey) (arrived lost : List Dispatch) : Prop where
  inOrder : ((after ice x ahead as).calls v).filter Dispatch.arrives = arrived ++ lost
  received : (after ice x ahead as).received k = arrived.map Dispatch.order
  left : ofKey k (after ice x ahead as).left = lost.map Dispatch.order
  unlost : (after ice x ahead as).post.isOpen k → lost = []
  kept : (∀ now ∈ ahead, .abandon k ∉ now) → (after ice x ahead as).post.isOpen k
  place : ∀ d ∈ (after ice x ahead as).calls v, d.place = some k
  missing : ∀ d ∈ (after ice x ahead as).calls v, ∃ m, d.found = some m ∧ m.orders.length ≤ 256 ∧
    (d.arrives = false → m.orders.length = 256 ∨ m.abandoned)
  between : ∀ pre a, pre ++ [a] <+: Action.processed as → ∃ ds,
    (after ice x ahead (pre ++ [a])).dispatches = (after ice x ahead pre).dispatches ++ ds ∧
      ∀ d ∈ ds, d.receiver = v → (∃ m, Action.stage? v pre = some (.up m)) ∧ a ≠ .unsubscribe v
  passed : ∀ u, (Traffic.passed u v (after ice x ahead as).dispatches).map Dispatch.text =
    addressed ice u v (Action.processed as) (.empty, .empty)
  sublist : ∀ u, ((arrived.filter (Dispatch.passes u)).map Dispatch.text).Sublist
    (addressed ice u v (Action.processed as) (.empty, .empty))
  complete : ∀ u, (∀ now ∈ ahead, .abandon k ∉ now) →
    (∀ d ∈ Traffic.passed u v (after ice x ahead as).dispatches, ∀ m, d.found = some m →
      m.orders.length < 256) →
    (arrived.filter (Dispatch.passes u)).map Dispatch.text =
      addressed ice u v (Action.processed as) (.empty, .empty)
  alone : ahead = [] →
    (after ice x ahead as).exchange = (Worker.run (Exchange.handler ice) ⟨as⟩ { state := x }).2.state

lemma exchange_after (x : Exchange) : (after ice x [] as).exchange =
    (Worker.run (Exchange.handler ice) ⟨as⟩ { state := x }).2.state := by
  have hstart : ({ state := x } : Worker Exchange).Agrees Mirrors
      { state := { exchange := x } } := ⟨rfl, rfl, rfl, rfl⟩
  exact ((hstart.run (handler_mirrors ice) ⟨as⟩).state.1).symm

lemma accounts_empty {x : Exchange} {ahead : List (List Clearing)}
    (hk : x.post.box? k = some .empty) :
    ({ exchange := x, ahead := ahead } : Traffic).Accounts k where
  present := Option.isSome_iff_exists.mpr ⟨_, hk⟩
  bounded := by
    rw [post, Post.waiting, hk]
    exact Nat.zero_le _
  unlost _ := rfl
  emptied _ := by
    rw [post, Post.waiting, hk]
    rfl
  balance := by
    rw [post, Post.waiting, hk]
    rfl
  found := List.forall_mem_nil _

lemma isOpen_after {x : Exchange} {ahead : List (List Clearing)}
    (hk : x.post.box? k = some .empty) (hahead : ∀ now ∈ ahead, .abandon k ∉ now) :
    (after ice x ahead as).post.isOpen k := by
  have hopen : x.post.isOpen k := by
    rw [Post.isOpen_eq, hk]
    rfl
  exact (keeps_held.run ice ⟨as⟩ (w := { state := { exchange := x, ahead := ahead } })
    ⟨hopen, hahead⟩).isOpen

lemma core_start {x : Exchange} {ahead : List (List Clearing)} (hx : x.room = .empty) :
    core (({ state := { exchange := x, ahead := ahead } } : Worker Traffic).start (handler ice)) =
      (.empty, .empty) := by
  rw [← hx]
  exact congrArg (Prod.mk Registry.empty) room_note

lemma sends_after {x : Exchange} {ahead : List (List Clearing)} (hx : x.room = .empty)
    (hl : Action.Lifecycles (Action.processed as)) (happart : Action.Apart (Action.processed as))
    (hv : .subscribe l ⟨v, k⟩ ∈ Action.processed as) :
    Sends ice v k (Action.processed as) (after ice x ahead as).dispatches := by
  rw [after, dispatches_run]
  exact sends_foldl (core_start hx) dispatches_note hl happart hv (List.prefix_refl _)

lemma dispatches_after_concat {x : Exchange} {ahead : List (List Clearing)} (hx : x.room = .empty)
    (hl : Action.Lifecycles (Action.processed as)) (happart : Action.Apart (Action.processed as))
    (hv : .subscribe l ⟨v, k⟩ ∈ Action.processed as) (hpre : pre ++ [a] <+: Action.processed as) :
    ∃ ds, (after ice x ahead (pre ++ [a])).dispatches = (after ice x ahead pre).dispatches ++ ds ∧
      ∀ d ∈ ds, d.receiver = v →
        (∃ m, Action.stage? v pre = some (.up m)) ∧ a ≠ .unsubscribe v := by
  obtain ⟨ds, hds, hnew, -⟩ :=
    step_sends ice (core_start hx) hl happart hv hpre
  refine ⟨ds, ?_, fun d hd hreceiver => hreceiver ▸ (hnew d hd).2⟩
  rw [after, after, dispatches_run_of_prefix hpre,
    dispatches_run_of_prefix ((List.prefix_append pre [a]).trans hpre), List.foldl_concat, hds]

lemma Sends.filter_arrives {t : Traffic} (h : Sends ice v k pre t.dispatches) :
    (t.calls v).filter Dispatch.arrives = t.arrivedAt k := by
  rw [calls, List.filter_filter, arrivedAt]
  refine List.filter_congr fun d hd => ?_
  rw [decide_eq_decide.mpr (h.places d hd), Bool.and_comm]

end Run

theorem run_arrives (ice : Ice) (as : List Action) (x : Exchange) (ahead : List (List Clearing))
    (v : ConnectionId) (l : Listener) (k : MailboxKey) (hx : x.room = .empty)
    (hl : Action.Lifecycles (Action.processed as)) (happart : Action.Apart (Action.processed as))
    (hv : .subscribe l ⟨v, k⟩ ∈ Action.processed as) (hk : x.post.box? k = some .empty) :
    ∃ arrived lost, Delivers ice x ahead as v k arrived lost := by
  let t := after ice x ahead as
  have hsends : Sends ice v k (Action.processed as) t.dispatches := sends_after hx hl happart hv
  have haccounts : t.Accounts k := keeps_accounts.run ice ⟨as⟩ (accounts_empty hk)
  have hplace : ∀ d ∈ t.calls v, d.place = some k := by
    intro d hd
    obtain ⟨hd, hreceiver⟩ := List.mem_filter.mp hd
    exact (hsends.places d hd).mp (of_decide_eq_true hreceiver)
  have hfound : ∀ d ∈ t.calls v, ∃ m, d.found = some m ∧ m.orders.length ≤ 256 ∧
      (t.post.isOpen k → m.abandoned = false) :=
    fun d hd => haccounts.found d (List.mem_filter.mp hd).1 (hplace d hd)
  obtain ⟨arrived, lost, hsplit, hreceived, hleft⟩ := haccounts.split
  have hcalls : (t.calls v).filter Dispatch.arrives = arrived ++ lost :=
    hsends.filter_arrives.trans hsplit
  have hunlost : t.post.isOpen k → lost = [] := by
    intro hopen
    rw [haccounts.unlost hopen] at hleft
    exact List.map_eq_nil_iff.mp hleft.symm
  -- Of the calls that pass something on from `u`, those that arrived are a part.
  have hpart (u : ConnectionId) : (Traffic.passed u v t.dispatches).filter Dispatch.arrives =
      arrived.filter (Dispatch.passes u) ++ lost.filter (Dispatch.passes u) := by
    rw [← List.filter_append, ← hcalls, List.filter_comm]
    rfl
  refine ⟨arrived, lost, ?_⟩
  exact
    { inOrder := hcalls
      received := hreceived
      left := hleft
      unlost := hunlost
      kept := isOpen_after hk
      place := hplace
      missing := fun d hd => by
        obtain ⟨m, hm, hbounded, -⟩ := hfound d hd
        exact ⟨m, hm, hbounded, Dispatch.full_or_abandoned hm hbounded⟩
      between := fun pre a => dispatches_after_concat hx hl happart hv
      passed := hsends.passed
      sublist := fun u => by
        have hfront : ((Traffic.passed u v t.dispatches).filter Dispatch.arrives).Sublist _ :=
          List.filter_sublist
        rw [hpart u] at hfront
        rw [← hsends.passed u]
        exact ((List.sublist_append_left _ _).trans hfront).map _
      complete := fun u hahead hroom => by
        have hopen : t.post.isOpen k := isOpen_after hk hahead
        have hall : (Traffic.passed u v t.dispatches).filter Dispatch.arrives =
            Traffic.passed u v t.dispatches := by
          refine List.filter_eq_self.mpr fun d hd => ?_
          obtain ⟨m, hm, -, htaken⟩ := hfound d (List.mem_filter.mp hd).1
          exact (Dispatch.arrives_iff hm).mpr ⟨htaken hopen, hroom d hd m hm⟩
        rw [← hsends.passed u, ← hall, hpart u, hunlost hopen, List.filter_nil, List.append_nil]
      alone := fun hahead => by
        rw [hahead]
        exact exchange_after x }

def twoGuests : List Action :=
  [.subscribe .plain ⟨1, 0⟩, .subscribe .tls ⟨2, 1⟩,
    .message 1 (.text "\x7b\"signal\":\"sign_in\",\"name\":\"a\"\x7d"),
    .message 2 (.text "\x7b\"signal\":\"sign_in\",\"name\":\"b\"\x7d"),
    .message 1 (.text Room.toSecond), .message 1 (.text Room.toSecond), .exit]

def twoMailboxes : Exchange := { post := Post.empty.create.2.create.2 }

lemma twoGuests_apart : Action.Apart (Action.processed twoGuests) := by
  have hhandles {l : Listener} {h : Handle} (hh : .subscribe l h ∈ Action.processed twoGuests) :
      h = ⟨1, 0⟩ ∨ h = ⟨2, 1⟩ := by
    have hcases : (l = .plain ∧ h = ⟨1, 0⟩) ∨ l = .tls ∧ h = ⟨2, 1⟩ := by
      simpa [twoGuests, Action.processed] using hh
    exact hcases.imp And.right And.right
  intro l h m g hh hg
  rcases hhandles hh with rfl | rfl <;> rcases hhandles hg with rfl | rfl <;> decide

def oneTaken : List (List Clearing) := List.replicate 14 [] ++ [[.take 1]]

lemma twoGuests_start : twoMailboxes.post.box? 1 = some .empty ∧
    addressed .none 1 2 (Action.processed twoGuests) (.empty, .empty) =
      [Room.toSecond, Room.toSecond] := by
  decide +kernel

theorem run_arrives_twoGuests :
    (twoMailboxes.room = .empty ∧ Action.Lifecycles (Action.processed twoGuests) ∧
      Action.Apart (Action.processed twoGuests) ∧
      .subscribe .tls ⟨2, 1⟩ ∈ Action.processed twoGuests ∧
      twoMailboxes.post.box? 1 = some .empty) ∧
    ∃ arrived lost, Delivers .none twoMailboxes oneTaken twoGuests 2 1 arrived lost ∧
      (arrived.filter (Dispatch.passes 1)).map Dispatch.text = [Room.toSecond, Room.toSecond] ∧
      lost = [] := by
  have hl : Action.Lifecycles (Action.processed twoGuests) := by decide
  have hv : .subscribe .tls ⟨2, 1⟩ ∈ Action.processed twoGuests := by decide
  obtain ⟨hk, haddressed⟩ := twoGuests_start
  have hroom : ((after .none twoMailboxes oneTaken twoGuests).dispatches.all fun d =>
      d.found.all fun m => m.orders.length < 256) = true := by decide +kernel
  have hahead : ∀ now ∈ oneTaken, .abandon 1 ∉ now := by decide
  obtain ⟨arrived, lost, h⟩ :=
    run_arrives .none twoGuests twoMailboxes oneTaken 2 .tls 1 rfl hl twoGuests_apart hv hk
  refine ⟨⟨rfl, hl, twoGuests_apart, hv, hk⟩, arrived, lost, h, ?_, h.unlost (h.kept hahead)⟩
  refine (h.complete 1 hahead fun d hd m hm => ?_).trans haddressed
  have hd := List.all_eq_true.mp hroom d (List.mem_filter.mp (List.mem_filter.mp hd).1).1
  simpa [hm] using hd

-- First the mailbox is given up before anything is sent, and then with all calls let in and unread.
theorem secondGuest_receives_nothing :
    (twoMailboxes.room = .empty ∧ Action.Lifecycles (Action.processed twoGuests) ∧
      Action.Apart (Action.processed twoGuests) ∧
      .subscribe .tls ⟨2, 1⟩ ∈ Action.processed twoGuests ∧
      twoMailboxes.post.box? 1 = some .empty ∧
      addressed .none 1 2 (Action.processed twoGuests) (.empty, .empty) =
        [Room.toSecond, Room.toSecond]) ∧
    (let t := after .none twoMailboxes [[.abandon 1]] twoGuests
     (t.calls 2).length = 3 ∧
      (∀ d ∈ t.calls 2, ∃ m, d.found = some m ∧ m.orders.length < 256) ∧ t.received 1 = []) ∧
    let t := after .none twoMailboxes (List.replicate 21 [] ++ [[.abandon 1]]) twoGuests
    (t.calls 2).length = 3 ∧
      (∀ d ∈ t.calls 2, ∃ m, d.found = some m ∧ m.orders.length < 256 ∧ m.abandoned = false) ∧
      t.received 1 = [] := by
  obtain ⟨hk, haddressed⟩ := twoGuests_start
  obtain ⟨hcalls, hroom, hreceived⟩ :
      let t := after .none twoMailboxes [[.abandon 1]] twoGuests
      (t.calls 2).length = 3 ∧ (t.calls 2).all (fun d => d.found.any fun m =>
        m.orders.length < 256) ∧ t.received 1 = [] := by decide +kernel
  obtain ⟨hcalls', harrives, hreceived'⟩ :
      let t := after .none twoMailboxes (List.replicate 21 [] ++ [[.abandon 1]]) twoGuests
      (t.calls 2).length = 3 ∧ (t.calls 2).all Dispatch.arrives ∧ t.received 1 = [] := by
    decide +kernel
  refine ⟨⟨rfl, by decide, twoGuests_apart, by decide, hk, haddressed⟩,
    ⟨hcalls, fun d hd => ?_, hreceived⟩, hcalls', fun d hd => ?_, hreceived'⟩
  · obtain ⟨m, hm, hlength⟩ := (Option.any_eq_true ..).mp (List.all_eq_true.mp hroom d hd)
    exact ⟨m, hm, of_decide_eq_true hlength⟩
  · have hd := List.all_eq_true.mp harrives d hd
    obtain ⟨m, hm, -⟩ := (Option.any_eq_true ..).mp hd
    exact ⟨m, hm, ((Dispatch.arrives_iff hm).mp hd).symm⟩

end Traffic

end Rendezvous
