import Rendezvous.Proofs.Worker.Calls

/-! The worker among any number of producers. It processes what was enqueued before the first exit,
in that order, and leaves the rest. -/

namespace Rendezvous.Worker

def Beat.given? : Beat → Option (Nat × Action)
  | .enqueue producer a => some (producer, a)
  | .work => none

namespace Loop

variable {σ : Type}

lemma work_cons {h : Handler σ} {w : Worker σ} {as : List Action} {a : Action} (ha : a ≠ .exit) :
    (Loop.mk ⟨a :: as⟩ w .serving).work h = ⟨⟨as⟩, w.step h a, .serving⟩ := by
  simp only [work, ActionQueue.dequeue?, if_neg ha]

/-- What the worker has not processed, with the exit if it has taken one. -/
def pending (l : Loop σ) : List Action :=
  match l.phase with
  | .serving => l.queue.actions
  | _ => .exit :: l.queue.actions

structure Proceeds (r : Registry) (given done : List (Nat × Action))
    (l : Loop (List Handler.Call)) : Prop where
  served : l.worker.Served r (done.map Prod.snd)
  quiet : ∀ d ∈ done, d.2 ≠ .exit
  rest : ∃ left, given = done ++ left ∧ left.map Prod.snd = l.pending

namespace Proceeds

variable {r : Registry} {given done : List (Nat × Action)} {l : Loop (List Handler.Call)}

lemma enqueue (hl : l.Proceeds r given done) (producer : Nat) (a : Action) :
    (l.beat recorder (.enqueue producer a)).Proceeds r (given ++ [(producer, a)]) done := by
  obtain ⟨left, hgiven, hleft⟩ := hl.rest
  refine ⟨hl.served, hl.quiet, left ++ [(producer, a)], by rw [hgiven, List.append_assoc], ?_⟩
  rw [List.map_append, hleft]
  obtain ⟨q, w, _ | _ | _⟩ := l <;> rfl

lemma work (hl : l.Proceeds r given done) :
    ∃ done, (l.work recorder).Proceeds r given done := by
  obtain ⟨hserved, hquiet, left, hgiven, hleft⟩ := hl
  obtain ⟨⟨queue⟩, w, phase⟩ := l
  cases phase with
  | serving =>
    cases queue with
    | nil => exact ⟨done, hserved, hquiet, left, hgiven, hleft⟩
    | cons a queue =>
      -- An exit stays pending when the worker takes it: `pending` puts it back in front.
      by_cases ha : a = .exit
      · subst ha
        exact ⟨done, hserved.note _, hquiet, left, hgiven, hleft⟩
      · obtain ⟨⟨producer, b⟩, left, rfl, hb, hqueue⟩ := List.map_eq_cons_iff.mp hleft
        obtain rfl : b = a := hb
        refine ⟨done ++ [(producer, b)], ?_, ?_, left, by rw [hgiven, List.append_assoc]; rfl, ?_⟩
        · rw [List.map_append]
          exact hserved.step ha
        · intro d hd
          rcases List.mem_append.mp hd with hd | hd
          · exact hquiet d hd
          · exact List.mem_singleton.mp hd ▸ ha
        · rw [hqueue, work_cons ha]
          rfl
  | leaving => exact ⟨done, hserved.finish queue, hquiet, left, hgiven, hleft⟩
  | ended => exact ⟨done, hserved, hquiet, left, hgiven, hleft⟩

lemma map_given (hl : l.Proceeds r given done) :
    given.map Prod.snd = done.map Prod.snd ++ l.pending := by
  obtain ⟨left, hgiven, hleft⟩ := hl.rest
  rw [hgiven, List.map_append, hleft]

lemma takeWhile_given (hl : l.Proceeds r given done) :
    ∃ left : List (Nat × Action), left.map Prod.snd = l.pending ∧
    given.takeWhile (·.2 ≠ .exit) = done ++ left.takeWhile (·.2 ≠ .exit) := by
  obtain ⟨left, hgiven, hleft⟩ := hl.rest
  refine ⟨left, hleft, ?_⟩
  rw [hgiven]
  exact List.takeWhile_append_of_pos fun d hd => by simpa using hl.quiet d hd

lemma prefix_takeWhile (hl : l.Proceeds r given done) :
    done <+: given.takeWhile (·.2 ≠ .exit) := by
  obtain ⟨left, -, hgiven⟩ := hl.takeWhile_given
  exact hgiven ▸ List.prefix_append ..

lemma eq_takeWhile {queue : List Action} (hl : l.Proceeds r given done)
    (hexit : l.pending = .exit :: queue) : done = given.takeWhile (·.2 ≠ .exit) := by
  obtain ⟨left, hleft, hgiven⟩ := hl.takeWhile_given
  obtain ⟨d, left, rfl, hd, -⟩ := List.map_eq_cons_iff.mp (hleft.trans hexit)
  rw [hgiven, List.takeWhile_cons_of_neg (by simp [hd]), List.append_nil]

lemma run (hl : l.Proceeds r given done) (bs : List Beat) :
    ∃ done, (l.run recorder bs).Proceeds r (given ++ bs.filterMap Beat.given?) done := by
  induction bs generalizing l given done with
  | nil => exact ⟨done, (List.append_nil given).symm ▸ hl⟩
  | cons b bs ih =>
    cases b with
    | enqueue producer a =>
      obtain ⟨done, hlater⟩ := ih (hl.enqueue producer a)
      exact ⟨done, by rwa [List.append_assoc] at hlater⟩
    | work =>
      obtain ⟨done, hl⟩ := hl.work
      exact ih hl

end Proceeds

section Progress

variable {h : Handler σ} {w : Worker σ} {as : List Action} {n : Nat}

lemma run_ended {l : Loop σ} (hl : l.phase = .ended) :
    l.run h (List.replicate n .work) = l := by
  induction n with
  | zero => rfl
  | succ n ih =>
    have hsame : l.beat h .work = l := by
      rw [beat, work, hl]
    rw [List.replicate_succ, run, List.foldl_cons, hsame]
    exact ih

lemma run_waiting : (Loop.mk .empty w .serving).run h (List.replicate n .work) =
    ⟨.empty, w, .serving⟩ := by
  induction n with
  | zero => rfl
  | succ n ih => exact ih

lemma run_alone : (Loop.mk ⟨as⟩ w .serving).run h (List.replicate (as.length + 2 + n) .work) =
    match drain h as w with
    | (true, rest, u) => ⟨⟨rest⟩, u.finish h rest, .ended⟩
    | (false, rest, u) => ⟨⟨rest⟩, u, .serving⟩ := by
  induction as generalizing w with
  | nil => exact run_waiting
  | cons a as ih =>
    have hturns : (a :: as).length + 2 + n = as.length + 2 + n + 1 := by
      rw [List.length_cons]
      omega
    rw [hturns, List.replicate_succ, run, List.foldl_cons]
    by_cases ha : a = .exit
    · subst ha
      have hlast : as.length + 2 + n = as.length + 1 + n + 1 := by omega
      rw [hlast, List.replicate_succ, List.foldl_cons]
      exact run_ended rfl
    · rw [beat, work_cons ha, drain_cons ha]
      exact ih

lemma run_eq_run (q : ActionQueue) (hn : q.size + 2 ≤ n) :
    let l := (start h q w).run h (List.replicate n .work)
    (l.queue, l.worker) = Worker.run h q w := by
  obtain ⟨m, rfl⟩ := Nat.exists_eq_add_of_le hn
  intro l
  have hl : l = _ := run_alone
  rw [hl, Worker.run]
  rcases drain h q.actions (w.start h) with ⟨_ | _, rest, u⟩ <;> rfl

def turns (l : Loop σ) : Nat :=
  match l.phase with
  | .serving => (l.queue.actions.takeWhile (· ≠ .exit)).length + 2
  | .leaving => 1
  | .ended => 0

lemma turns_le {l : Loop σ} : l.turns ≤ l.queue.size + 2 := by
  rw [turns, ActionQueue.size]
  cases l.phase with
  | serving => exact Nat.add_le_add_right (List.takeWhile_sublist _).length_le 2
  | leaving => exact Nat.le_add_left 1 _
  | ended => exact Nat.zero_le _

lemma takeWhile_append_of_mem {bs : List Action} (ha : .exit ∈ as) :
    (as ++ bs).takeWhile (· ≠ .exit) = as.takeWhile (· ≠ .exit) := by
  induction as with
  | nil => cases ha
  | cons a as ih =>
    by_cases he : a = .exit
    · simp [he]
    · have hrest := ih ((List.mem_cons.mp ha).resolve_left (Ne.symm he))
      simp only [List.cons_append, List.takeWhile_cons, hrest]

lemma phase_run {l : Loop σ} {bs : List Beat} (hl : l.phase = .serving → .exit ∈ l.queue.actions)
    (hn : l.turns ≤ bs.count .work) : (l.run h bs).phase = .ended := by
  induction bs generalizing l with
  | nil =>
    obtain ⟨q, w, _ | _ | _⟩ := l
    · cases hn
    · cases hn
    · rfl
  | cons b bs ih =>
    rw [run, List.foldl_cons]
    obtain ⟨⟨queue⟩, w, phase⟩ := l
    cases b with
    | enqueue producer a =>
      rw [List.count_cons_of_ne (by simp)] at hn
      cases phase with
      | serving =>
        -- What is enqueued behind an exit takes no turn.
        have hexit : .exit ∈ queue := hl rfl
        refine ih (fun _ => List.mem_append_left _ hexit) (Nat.le_trans (Nat.le_of_eq ?_) hn)
        exact congrArg (fun as : List Action => as.length + 2) (takeWhile_append_of_mem hexit)
      | leaving => exact ih nofun hn
      | ended => exact ih nofun hn
    | work =>
      rw [List.count_cons_self] at hn
      cases phase with
      | serving =>
        cases queue with
        | nil => cases hl rfl
        | cons a queue =>
          by_cases ha : a = .exit
          · subst ha
            exact ih nofun (Nat.le_of_succ_le_succ hn)
          · have hexit : .exit ∈ queue := (List.mem_cons.mp (hl rfl)).resolve_left (Ne.symm ha)
            rw [beat, work_cons ha]
            refine ih (fun _ => hexit) (Nat.le_of_succ_le_succ ?_)
            rw [turns] at hn ⊢
            rw [List.takeWhile_cons_of_pos (by simpa using ha)] at hn
            exact hn
      | leaving => exact ih nofun (Nat.zero_le _)
      | ended => exact ih nofun (Nat.zero_le _)

end Progress

def after (h : Handler σ) (r : Registry) (x : σ) (bs : List Beat) : Loop σ :=
  run h (start h .empty { registry := r, state := x }) bs

def enqueued (bs : List Beat) : List (Nat × Action) := bs.filterMap Beat.given?

def record (r : Registry) (bs : List Beat) : List Handler.Call := (after recorder r [] bs).worker.state

structure Serves (h : Handler σ) (r : Registry) (x : σ) (bs : List Beat)
    (done : List (Nat × Action)) : Prop where
  front : done <+: (enqueued bs).takeWhile (·.2 ≠ .exit)
  serving : (after h r x bs).phase = .serving →
    (enqueued bs).map Prod.snd = done.map Prod.snd ++ (after h r x bs).queue.actions
  leaving : (after h r x bs).phase ≠ .serving → done = (enqueued bs).takeWhile (·.2 ≠ .exit) ∧
    (enqueued bs).map Prod.snd = done.map Prod.snd ++ .exit :: (after h r x bs).queue.actions
  inOrder : ∀ producer, done.filter (·.1 = producer) <+: (enqueued bs).filter (·.1 = producer)
  registry : (after h r x bs).worker.registry = (done.map Prod.snd).foldl Registry.enact r
  state : (after h r x bs).worker.state = (record r bs).foldl h.perform x
  calls : handled (record r bs) = Action.calls r (done.map Prod.snd)
  statistics : (after h r x bs).worker.statistics =
    { opened := ((done.map Prod.snd).filterMap Action.subscriber?).length
      closed := (Action.calls r (done.map Prod.snd)).countP Handler.Call.isClosed
      messages := (done.map Prod.snd).countP Action.isText
      ignored := (done.map Prod.snd).countP Action.isBinary }
  balance : r = .empty → ((done.map Prod.snd).filterMap Action.subscriber?).Nodup →
    (after h r x bs).worker.statistics.opened = (after h r x bs).worker.statistics.closed +
      (after h r x bs).worker.registry.countOf .plain +
      (after h r x bs).worker.registry.countOf .tls
  ends : .exit ∈ (enqueued bs).map Prod.snd →
    ∀ later, (after h r x bs).queue.size + 2 ≤ later.count .work →
      ((after h r x bs).run h later).phase = .ended
  atOnce : ∀ q n, q.size + 2 ≤ n →
    let l := (start h q { registry := r, state := x }).run h (List.replicate n .work)
    (l.queue, l.worker) = Worker.run h q { registry := r, state := x }

theorem run_serves (h : Handler σ) (r : Registry) (x : σ) (bs : List Beat) :
    ∃ done, Serves h r x bs done := by
  let l := after h r x bs
  -- The same beats with the recorder: `l` is told from `m` only by what its handler made of the calls.
  let m := after recorder r [] bs
  have hbefore : (start h .empty { registry := r, state := x }).Agrees
      (fun y calls => y = calls.foldl h.perform x)
      (start recorder .empty { registry := r, state := [] }) := ⟨rfl, ⟨rfl, rfl, rfl⟩, rfl⟩
  have hsame : l.Agrees (fun y calls => y = calls.foldl h.perform x) m :=
    hbefore.run (recorder_complete h x) bs
  have hstart : (start recorder .empty { registry := r, state := [] }).Proceeds r [] [] :=
    ⟨(Served.start r).note _, List.forall_mem_nil _, [], rfl, rfl⟩
  obtain ⟨done, hm⟩ : ∃ done, m.Proceeds r (enqueued bs) done := hstart.run bs
  have hserved := hm.served
  have hstatistics : l.worker.statistics = m.worker.statistics := hsame.worker.statistics
  have hregistry : l.worker.registry = m.worker.registry := hsame.worker.registry
  refine ⟨done, ?_⟩
  exact
    { front := hm.prefix_takeWhile
      serving := fun hl => by rw [hm.map_given, pending, ← hsame.phase, hl, hsame.queue]
      leaving := fun hl => by
        have hexit : m.pending = .exit :: l.queue.actions := by
          have hl : m.phase ≠ .serving := hsame.phase ▸ hl
          rw [pending, hsame.queue]
          cases hphase : m.phase with
          | serving => exact absurd hphase hl
          | leaving | ended => rfl
        exact ⟨hm.eq_takeWhile hexit, by rw [hm.map_given, hexit]⟩
      inOrder := fun producer => by
        obtain ⟨left, hgiven, -⟩ := hm.rest
        rw [hgiven, List.filter_append]
        exact List.prefix_append ..
      registry := hregistry.trans hserved.registry
      state := hsame.worker.state
      calls := hserved.calls
      statistics := by
        rw [hstatistics, ← hserved.opened, ← hserved.closed, ← hserved.messages, ← hserved.ignored]
      balance := fun hr hn => by
        subst hr
        have hcount := Action.length_subscribers hn
        rw [← hserved.opened, ← hserved.closed, ← hserved.registry] at hcount
        rw [hstatistics, hregistry, hcount, Nat.add_assoc]
        rfl
      ends := fun hexit later hlater => by
        refine phase_run (fun hl => ?_) (Nat.le_trans turns_le hlater)
        rw [hm.map_given, pending, ← hsame.phase, hl, ← hsame.queue] at hexit
        refine (List.mem_append.mp hexit).resolve_left fun hdone => ?_
        obtain ⟨d, hd, he⟩ := List.mem_map.mp hdone
        exact hm.quiet d hd he
      atOnce := fun q n => run_eq_run q }

end Loop

end Rendezvous.Worker
