import Rendezvous.Proofs.Exit.Ledger

namespace Rendezvous.Exit

namespace Channel

def heard (cs : List Call) : List Call := cs.filter fun c => c.reason?.isSome

lemma heard_heard (cs : List Call) : heard (heard cs) = heard cs := by
  rw [heard, heard, List.filter_filter]
  simp

lemma heard_append (cs ds : List Call) : heard (cs ++ ds) = heard cs ++ heard ds :=
  List.filter_append cs ds

lemma firstReason_heard (cs : List Call) :
    (firstReason (heard cs)).1 = (firstReason cs).1 ∧
      heard (firstReason (heard cs)).2 = heard (firstReason cs).2 := by
  induction cs with
  | nil => exact ⟨rfl, rfl⟩
  | cons c cs ih =>
    cases hr : c.reason? with
    | none =>
      have hskip : heard (c :: cs) = heard cs := List.filter_cons_of_neg (by simp [hr])
      have hnext : firstReason (c :: cs) = firstReason cs := by rw [firstReason, hr]
      rw [hskip, hnext]
      exact ih
    | some r =>
      have hkeep : heard (c :: cs) = c :: heard cs := List.filter_cons_of_pos (by simp [hr])
      rw [hkeep, firstReason_cons hr, firstReason_cons hr]
      exact ⟨rfl, heard_heard cs⟩

end Channel

def Socket.heard : Socket → Socket
  | listening name ch => listening name ⟨Channel.heard ch.pending⟩
  | orphaned => orphaned

namespace Operation

lemma turn_heard (op : Operation) (path : String) (x : Option Socket) :
    (op.turn path (x.map Socket.heard)).1 = (op.turn path x).1 ∧
      (op.turn path (x.map Socket.heard)).2.map Socket.heard = (op.turn path x).2.map Socket.heard := by
  rcases x with _ | (⟨opened, ch⟩ | _)
  · exact ⟨rfl, rfl⟩
  · cases op <;> simp [turn, Socket.heard, Channel.receive, Channel.heard_append,
      Channel.heard_heard, Channel.wait, Channel.firstReason_heard]
  · exact ⟨rfl, rfl⟩

end Operation

namespace Sockets

variable {s t : Sockets} {ops : List Operation} {op : Operation}

structure Alike (s t : Sockets) : Prop where
  directory : t.directory = s.directory
  files : ∀ p, (t.file? p).map Socket.heard = (s.file? p).map Socket.heard

lemma Alike.sound (h : s.Alike t) (hs : s.Sound) : t.Sound where
  owned name hname opened ch hfile := by
    have hheard := h.files (t.seat name)
    rw [hfile] at hheard
    obtain ⟨z, hz, he⟩ := Option.map_eq_some_iff.mp hheard.symm
    cases z with
    | orphaned => exact absurd he (by simp [Socket.heard])
    | listening other ch' =>
      rw [seat_congr h.directory] at hz
      have hother := hs.owned name (hname.congr h.directory.symm) other ch' hz
      exact (Socket.listening.inj he).1.symm.trans hother
  vacant p hp := by
    have hnone := hs.vacant p (isDirectory_congr h.directory ▸ hp)
    have hheard := h.files p
    rw [hnone] at hheard
    exact Option.map_eq_none_iff.mp hheard

lemma Alike.effect (h : s.Alike t) (op : Operation) :
    (t.effect op).1 = (s.effect op).1 ∧
      (t.effect op).2.map Socket.heard = (s.effect op).2.map Socket.heard := by
  rw [Sockets.effect, Sockets.effect, isDirectory_congr h.directory, seat_congr h.directory,
    path_congr h.directory]
  have hheard := h.files (s.seat op.name)
  split
  · exact ⟨rfl, hheard⟩
  · have ht := op.turn_heard (s.path op.name) (t.file? (s.seat op.name))
    have hs := op.turn_heard (s.path op.name) (s.file? (s.seat op.name))
    rw [hheard] at ht
    exact ⟨ht.1.symm.trans hs.1, ht.2.symm.trans hs.2⟩

lemma Alike.perform (h : s.Alike t) (hs : s.Sound) (hu : s.Usable op.name) :
    (t.perform op).1 = (s.perform op).1 ∧ (s.perform op).2.Alike (t.perform op).2 := by
  obtain ⟨htold, hturns⟩ := hs.perform hu
  obtain ⟨htold', hturns'⟩ := (h.sound hs).perform (hu.congr h.directory)
  obtain ⟨hsame, hheard⟩ := h.effect op
  refine ⟨by rw [htold, htold', hsame], ?_, fun p => ?_⟩
  · rw [hturns.directory, hturns'.directory, h.directory]
  · rw [seat_congr h.directory] at hturns'
    by_cases he : p = s.seat op.name
    · rw [he, hturns.here, hturns'.here, hheard]
    · rw [hturns.elsewhere p he, hturns'.elsewhere p he, h.files]

lemma Alike.run (h : s.Alike t) (hs : s.Sound) (hu : ∀ op ∈ ops, s.Usable op.name) :
    (t.run ops).1 = (s.run ops).1 := by
  induction ops generalizing s t with
  | nil => rfl
  | cons op ops ih =>
    rw [List.forall_mem_cons] at hu
    obtain ⟨hsame, halike⟩ := h.perform hs hu.1
    obtain ⟨-, hturns⟩ := hs.perform hu.1
    have hrest := ih halike (hs.turns hu.1 hturns) fun o ho => (hu.2 o ho).congr hturns.directory
    rw [Sockets.run, Sockets.run]
    exact congrArg₂ List.cons hsame hrest

end Sockets
end Rendezvous.Exit
