import Mathlib.Tactic.Lemma
import Rendezvous.Worker.Loop

namespace Rendezvous

variable {σ τ : Type}

structure Handler.Simulates (h : Handler σ) (g : Handler τ) (R : σ → τ → Prop) : Prop where
  text : ∀ {x y}, R x y → ∀ r v s, R (h.text r v s x) (g.text r v s y)
  closed : ∀ {x y}, R x y → ∀ r v, R (h.closed r v x) (g.closed r v y)
  note : ∀ {x y}, R x y → ∀ e, R (h.note e x) (g.note e y)

namespace Worker

structure Agrees (R : σ → τ → Prop) (w : Worker σ) (u : Worker τ) : Prop where
  registry : w.registry = u.registry
  statistics : w.statistics = u.statistics
  state : R w.state u.state

namespace Agrees

variable {h : Handler σ} {g : Handler τ} {R : σ → τ → Prop} {w : Worker σ} {u : Worker τ}

lemma note (hw : w.Agrees R u) (hs : h.Simulates g R) (e : Log.Entry) :
    (w.note h e).Agrees R (u.note g e) := ⟨hw.registry, hw.statistics, hs.note hw.state e⟩

lemma unsubscribe (hw : w.Agrees R u) (hs : h.Simulates g R) (v : ConnectionId) :
    (w.unsubscribe h v).Agrees R (u.unsubscribe g v) := by
  obtain ⟨r, t, x⟩ := w
  obtain ⟨r', t', y⟩ := u
  obtain ⟨rfl, rfl, hxy⟩ := hw
  rw [Worker.unsubscribe, Worker.unsubscribe]
  rcases r.remove v with ⟨_ | l, r'⟩
  · exact ⟨rfl, rfl, hs.note hxy _⟩
  · exact ⟨rfl, rfl, hs.closed (hs.note hxy _) r' v⟩

lemma message (hw : w.Agrees R u) (hs : h.Simulates g R) (v : ConnectionId) (p : Payload) :
    (w.message h v p).Agrees R (u.message g v p) := by
  obtain ⟨r, t, x⟩ := w
  obtain ⟨r', t', y⟩ := u
  obtain ⟨rfl, rfl, hxy⟩ := hw
  cases p with
  | text s => exact ⟨rfl, rfl, hs.text hxy r v s⟩
  | binary bs => exact ⟨rfl, rfl, hs.note hxy _⟩

lemma step (hw : w.Agrees R u) (hs : h.Simulates g R) (a : Action) :
    (w.step h a).Agrees R (u.step g a) := by
  have htrace := hw.note hs (Log.trace "Action entnommen")
  cases a with
  | subscribe l handle =>
    refine ⟨congrArg (·.add l handle) hw.registry, ?_, hs.note htrace.state _⟩
    exact congrArg (fun t : Statistics => { t with opened := t.opened + 1 }) hw.statistics
  | unsubscribe v => exact htrace.unsubscribe hs v
  | message v p => exact htrace.message hs v p
  | exit => exact htrace

lemma foldl (hw : w.Agrees R u) (hs : h.Simulates g R) (as : List Action) :
    (as.foldl (Worker.step h) w).Agrees R (as.foldl (Worker.step g) u) := by
  induction as generalizing w u with
  | nil => exact hw
  | cons a as ih => exact ih (hw.step hs a)

lemma finish (hw : w.Agrees R u) (hs : h.Simulates g R) (rest : List Action) :
    (w.finish h rest).Agrees R (u.finish g rest) := by
  rw [Worker.finish, Worker.finish]
  cases rest with
  | nil => exact hw.note hs _
  | cons a rest => exact (hw.note hs _).note hs _

lemma drain (hw : w.Agrees R u) (hs : h.Simulates g R) (as : List Action) :
    (Worker.drain h as w).1 = (Worker.drain g as u).1 ∧
    (Worker.drain h as w).2.1 = (Worker.drain g as u).2.1 ∧
    (Worker.drain h as w).2.2.Agrees R (Worker.drain g as u).2.2 := by
  induction as generalizing w u with
  | nil => exact ⟨rfl, rfl, hw⟩
  | cons a as ih =>
    have hstep := hw.step hs a
    cases a with
    | exit => exact ⟨rfl, rfl, hstep⟩
    | subscribe | unsubscribe | message => exact ih hstep

lemma run (hw : w.Agrees R u) (hs : h.Simulates g R) (q : ActionQueue) :
    (Worker.run h q w).2.Agrees R (Worker.run g q u).2 := by
  obtain ⟨hstopped, hrest, hlater⟩ := (hw.note hs (Log.debug "Worker gestartet")).drain hs q.actions
  rw [Worker.run, Worker.run, Worker.start, Worker.start]
  rcases hd : Worker.drain h q.actions (w.note h (Log.debug "Worker gestartet")) with
    ⟨stopped, rest, w'⟩
  rcases he : Worker.drain g q.actions (u.note g (Log.debug "Worker gestartet")) with
    ⟨stopped', rest', u'⟩
  rw [hd, he] at hstopped hrest hlater
  obtain rfl : stopped = stopped' := hstopped
  obtain rfl : rest = rest' := hrest
  cases stopped with
  | true => exact hlater.finish hs rest
  | false => exact hlater

end Agrees

namespace Loop

structure Agrees (R : σ → τ → Prop) (l : Loop σ) (m : Loop τ) : Prop where
  queue : l.queue = m.queue
  worker : l.worker.Agrees R m.worker
  phase : l.phase = m.phase

namespace Agrees

variable {h : Handler σ} {g : Handler τ} {R : σ → τ → Prop} {l : Loop σ} {m : Loop τ}

lemma beat (hl : l.Agrees R m) (hs : h.Simulates g R) (b : Beat) :
    (l.beat h b).Agrees R (m.beat g b) := by
  obtain ⟨q, w, p⟩ := l
  obtain ⟨q', u, p'⟩ := m
  obtain ⟨rfl, hw, rfl⟩ := hl
  cases b with
  | enqueue _ a => exact ⟨rfl, hw, rfl⟩
  | work =>
    cases p with
    | serving =>
      obtain ⟨_ | ⟨a, as⟩⟩ := q
      · exact ⟨rfl, hw, rfl⟩
      · exact ⟨rfl, hw.step hs a, rfl⟩
    | leaving => exact ⟨rfl, hw.finish hs q.actions, rfl⟩
    | ended => exact ⟨rfl, hw, rfl⟩

lemma run (hl : l.Agrees R m) (hs : h.Simulates g R) (bs : List Beat) :
    (l.run h bs).Agrees R (m.run g bs) := by
  induction bs generalizing l m with
  | nil => exact hl
  | cons b bs ih => exact ih (hl.beat hs b)

end Agrees

end Loop

end Worker

end Rendezvous
