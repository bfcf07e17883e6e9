import Rendezvous.Exit.Latch
import Rendezvous.Proofs.Exit.Turn

/-! A channel and a latch agree. Whatever clients do, and whenever it comes, the first wait ends with
the first reason, and what has come behind it is left. -/

namespace Rendezvous.Exit

inductive Act where
  | stop
  | abort
  | probe
  | call (c : Call)
deriving DecidableEq, Repr

namespace Act

def operation (name : String) : Act → Operation
  | stop => .stop name
  | abort => .abort name
  | probe => .listen name
  | call c => .call name c

def sent : Act → Call
  | stop => .ofReason .stop
  | abort => .ofReason .abort
  | probe => []
  | call c => c

def reason? (a : Act) : Option Reason := a.sent.reason?

@[simp]
lemma name_operation (a : Act) (name : String) : (a.operation name).name = name := by
  cases a <;> rfl

end Act

namespace Channel

lemma snd_firstReason {cs : List Call} (h : (firstReason cs).1 = none) : (firstReason cs).2 = [] := by
  induction cs with
  | nil => rfl
  | cons c cs ih =>
    rw [firstReason] at h ⊢
    cases hr : c.reason? with
    | none =>
      rw [hr] at h
      exact ih h
    | some r =>
      rw [hr] at h
      exact absurd h (by simp)

lemma firstReason_append_of_some {cs : List Call} {r : Reason} (h : (firstReason cs).1 = some r)
    (ds : List Call) : firstReason (cs ++ ds) = (some r, (firstReason cs).2 ++ ds) := by
  rw [firstReason_fst] at h
  obtain ⟨before, c, later, rfl, hr, hbefore⟩ := List.findSome?_eq_some_iff.mp h
  rw [List.append_assoc, firstReason_append hbefore, firstReason_append hbefore, List.cons_append,
    firstReason_cons hr, firstReason_cons hr]

lemma firstReason_append_of_none {cs : List Call} (h : (firstReason cs).1 = none) (ds : List Call) :
    firstReason (cs ++ ds) = firstReason ds := by
  rw [firstReason_fst, List.findSome?_eq_none_iff] at h
  exact firstReason_append h ds

end Channel

namespace Sockets

variable {s t : Sockets} {name path : String} {p : Place} {z : Socket} {cs : List Call}

structure Holds (s : Sockets) (name : String) (p : Place) (cs : List Call) : Prop
    extends s.Seated name p where
  file : s.file? p = some (.listening name ⟨cs⟩)

def round (name : String) (waiting : Option Reason × Sockets) (acts : List Act) :
    Option Reason × Sockets :=
  let came := (waiting.2.run (acts.map (Act.operation name))).2
  match waiting.1 with
  | some r => (some r, came)
  | none => came.wait name

def await (s : Sockets) (name : String) (rounds : List (List Act)) : Option Reason × Sockets :=
  rounds.foldl (round name) (none, s)

lemma bind_ok (h : s.bind path z = .ok t) : Path.fitsSocket path = true ∧
    ∃ p, s.locate path = .ok p ∧ s.isDirectory p = false ∧ t = s.set p z := by
  rw [bind] at h
  split at h
  · rename_i hfits
    split at h
    · exact absurd h (by simp)
    · rename_i p hlocate
      split at h
      · exact absurd h (by simp)
      · rename_i hfree
        rw [Bool.or_eq_true, not_or, Bool.not_eq_true] at hfree
        exact ⟨hfits, p, hlocate, hfree.1, (Except.ok.inj h).symm⟩
  · exact absurd h (by simp)

lemma remove_directory (h : s.unlessAbsent (s.remove path) = .ok t) : t.directory = s.directory := by
  unfold unlessAbsent at h
  split at h
  · exact congrArg directory (Except.ok.inj h).symm
  · rw [remove] at h
    split at h
    · exact absurd h (by simp)
    · split at h
      · exact absurd h (by simp)
      · split at h
        · obtain rfl := Except.ok.inj h
          rfl
        · exact absurd h (by simp)

lemma listen_ok (h : s.listen name = (.ok path, t)) : ∃ p, t.Holds name p [] := by
  unfold listen at h
  dsimp only at h
  split at h
  · exact absurd h (by simp)
  · split at h
    · exact absurd h (by simp)
    · rename_i free hremove
      split at h
      · exact absurd h (by simp)
      · rename_i u hbind
        obtain ⟨-, rfl⟩ := Prod.mk.inj h
        obtain ⟨hfits, p, hlocate, hfree, rfl⟩ := bind_ok hbind
        have hpath : s.path name = free.path name := (path_congr (remove_directory hremove)).symm
        rw [hpath] at hfits hlocate
        have hseated : free.Seated name p := ⟨⟨hfits, hlocate⟩, hfree⟩
        exact ⟨p, hseated.congr rfl, file?_set_self free p _⟩

namespace Holds

lemma owned (h : s.Holds name p cs) : s.Owned name p := by
  intro opened ch hfile
  rw [h.file] at hfile
  exact (Socket.listening.inj (Option.some.inj hfile)).1.symm

lemma channel? (h : s.Holds name p cs) : s.channel? name = some ⟨cs⟩ := by
  rw [h.toSeated.channel?_eq h.owned, h.file]

lemma of_turns {ds : List Call} (h : s.Holds name p cs)
    (ht : Turns s t p (some (.listening name ⟨ds⟩))) : t.Holds name p ds :=
  ⟨h.toSeated.congr ht.directory, ht.here⟩

lemma act (h : s.Holds name p cs) (a : Act) :
    (s.perform (a.operation name)).2.Holds name p (cs ++ [a.sent]) := by
  have hseated : s.Seated (a.operation name).name p := by
    rw [Act.name_operation]
    exact h.toSeated
  have howned : s.Owned (a.operation name).name p := by
    rw [Act.name_operation]
    exact h.owned
  have hturns := (hseated.perform howned).2
  rw [h.file] at hturns
  refine h.of_turns ?_
  cases a <;> exact hturns

lemma acts (h : s.Holds name p cs) (as : List Act) :
    (s.run (as.map (Act.operation name))).2.Holds name p (cs ++ as.map Act.sent) := by
  induction as generalizing s cs with
  | nil =>
    change s.Holds name p (cs ++ [])
    rwa [List.append_nil]
  | cons a as ih =>
    have hnext := ih (h.act a)
    rwa [List.append_assoc, List.singleton_append] at hnext

lemma wait (h : s.Holds name p cs) : (s.wait name).1 = (Channel.firstReason cs).1 ∧
    (s.wait name).2.Holds name p (Channel.firstReason cs).2 := by
  unfold Sockets.wait
  rw [h.channel?, h.locate]
  exact ⟨rfl, h.of_turns turns_set⟩

end Holds

/-- Of all calls that have come, the first reason ends the wait, and those behind it are left. -/
structure Waits (waiting : Option Reason × Sockets) (name : String) (p : Place) (cs : List Call) :
    Prop where
  reason : waiting.1 = (Channel.firstReason cs).1
  holds : waiting.2.Holds name p (Channel.firstReason cs).2

lemma Waits.round {waiting : Option Reason × Sockets} (h : Waits waiting name p cs) (acts : List Act) :
    Waits (round name waiting acts) name p (cs ++ acts.map Act.sent) := by
  have hcame := h.holds.acts acts
  rw [Sockets.round]
  cases hw : waiting.1 with
  | some r =>
    -- nobody waits any more, and what comes now is left
    have hall := Channel.firstReason_append_of_some (h.reason.symm.trans hw) (acts.map Act.sent)
    refine ⟨?_, ?_⟩
    · rw [hall]
    · rw [hall]
      exact hcame
  | none =>
    have hnone := h.reason.symm.trans hw
    have hall := Channel.firstReason_append_of_none hnone (acts.map Act.sent)
    rw [Channel.snd_firstReason hnone] at hcame
    obtain ⟨hreason, hrest⟩ := hcame.wait
    refine ⟨?_, ?_⟩
    · rw [hall]
      exact hreason
    · rw [hall]
      exact hrest

lemma Waits.rounds {waiting : Option Reason × Sockets} (h : Waits waiting name p cs)
    (rounds : List (List Act)) :
    Waits (rounds.foldl (Sockets.round name) waiting) name p (cs ++ rounds.flatten.map Act.sent) := by
  induction rounds generalizing waiting cs with
  | nil =>
    change Waits waiting name p (cs ++ [])
    rwa [List.append_nil]
  | cons acts rounds ih =>
    have hnext := ih (h.round acts)
    rwa [List.append_assoc, ← List.map_append] at hnext

lemma Holds.await (h : s.Holds name p []) (rounds : List (List Act)) :
    Waits (s.await name rounds) name p (rounds.flatten.map Act.sent) := by
  have hstart : Waits (none, s) name p [] := ⟨rfl, h⟩
  exact hstart.rounds rounds

theorem await_agrees (h : s.listen name = (.ok path, t)) (rounds : List (List Act)) :
    let acts := rounds.flatten
    let latch := Latch.empty.postAll (acts.filterMap Act.reason?)
    (t.await name rounds).1 = latch.wait ∧
    ((∃ a ∈ acts, a.reason?.isSome) → ∃ before a later r,
      acts = before ++ a :: later ∧ (∀ b ∈ before, b.reason? = none) ∧ a.reason? = some r ∧
      (t.await name rounds).1 = some r ∧
      (t.await name rounds).2.channel? name = some ⟨later.map Act.sent⟩ ∧
      ∀ posts, (latch.postAll posts).wait = some r) := by
  intro acts latch
  obtain ⟨p, hholds⟩ := listen_ok h
  obtain ⟨hreason, hrest⟩ := hholds.await rounds
  have hlatch : latch.wait = (t.await name rounds).1 := by
    rw [hreason, Channel.firstReason_fst, Latch.wait_postAll, List.findSome?_map, List.head?_filterMap]
    rfl
  refine ⟨hlatch.symm, fun hsome => ?_⟩
  obtain ⟨r, hr⟩ : ∃ r, acts.findSome? Act.reason? = some r := by
    rw [← Option.isSome_iff_exists, List.findSome?_isSome_iff]
    exact hsome
  obtain ⟨before, a, later, hacts, ha, hbefore⟩ := List.findSome?_eq_some_iff.mp hr
  have hfirst : Channel.firstReason (acts.map Act.sent) = (some r, later.map Act.sent) := by
    have hskip : ∀ c ∈ before.map Act.sent, c.reason? = none := List.forall_mem_map.mpr hbefore
    rw [hacts, List.map_append, Channel.firstReason_append hskip, List.map_cons,
      Channel.firstReason_cons ha]
  rw [hfirst] at hreason hrest
  refine ⟨before, a, later, r, hacts, hbefore, ha, hreason, hrest.channel?, fun posts => ?_⟩
  rw [Latch.wait_postAll, hlatch, hreason, Option.some_or]

theorem await_agrees_funkstelle :
    let s : Sockets := { directory := "/run" }
    let t := (s.listen "funkstelle").2
    let rounds : List (List Act) :=
      [[.probe, .call []], [.call [0x58, 0x53], .abort, .stop], [.call [0x53]]]
    (s.listen "funkstelle" = (.ok "/run/funkstelle.sock", t) ∧
      ∃ a ∈ rounds.flatten, a.reason?.isSome) ∧
    ∃ before a later r, rounds.flatten = before ++ a :: later ∧ (∀ b ∈ before, b.reason? = none) ∧
      a.reason? = some r ∧ (t.await "funkstelle" rounds).1 = some r ∧
      (t.await "funkstelle" rounds).2.channel? "funkstelle" = some ⟨later.map Act.sent⟩ ∧
      ∀ posts, ((Latch.empty.postAll [.abort, .stop, .stop]).postAll posts).wait = some r := by
  intro s t rounds
  have hopen : s.listen "funkstelle" = (.ok "/run/funkstelle.sock", t) := by
    decide +kernel
  have hsome : ∃ a ∈ rounds.flatten, a.reason?.isSome := ⟨.abort, by decide, by decide⟩
  exact ⟨⟨hopen, hsome⟩, (await_agrees hopen rounds).2 hsome⟩

end Sockets
end Rendezvous.Exit
