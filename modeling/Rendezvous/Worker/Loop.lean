import Rendezvous.Worker

/-!
The worker at its queue, turn by turn. Between its turns others enqueue actions.
-/

namespace Rendezvous.Worker

inductive Phase where
  | serving
  | leaving
  | ended
deriving DecidableEq, Repr

structure Loop (σ : Type) where
  queue : ActionQueue := .empty
  worker : Worker σ
  phase : Phase := .serving

inductive Beat where
  | enqueue (producer : Nat) (a : Action)
  | work
deriving DecidableEq, Repr

namespace Loop

variable {σ : Type} (h : Handler σ)

def start (q : ActionQueue) (w : Worker σ) : Loop σ := { queue := q, worker := w.start h }

def work (l : Loop σ) : Loop σ :=
  match l.phase with
  | .serving =>
    match l.queue.dequeue? with
    | none => l
    | some (a, q) =>
      { queue := q, worker := l.worker.step h a, phase := if a = .exit then .leaving else .serving }
  | .leaving => { l with worker := l.worker.finish h l.queue.actions, phase := .ended }
  | .ended => l

def beat (l : Loop σ) : Beat → Loop σ
  | .enqueue _ a => { l with queue := l.queue.enqueue a }
  | .work => l.work h

def run (l : Loop σ) (bs : List Beat) : Loop σ := bs.foldl (beat h) l

end Loop

end Rendezvous.Worker
