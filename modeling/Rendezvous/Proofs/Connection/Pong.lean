import Mathlib.Order.Bounds.Basic
import Rendezvous.Proofs.Connection.Account

/-! How a connection keeps watch over pongs. What it knows of open pings is the time of the first
that no pong has followed, and this time bounds the waits for a pong and for the client to take
what is written. -/

namespace Rendezvous.Connection

def Incident.isPong : Incident → Bool
  | .message (.pong _) => true
  | _ => false

/-- A ping was taken at this time, and no pong has come since. -/
def Unanswered (xs : List (Time × Incident)) (u : Time) : Prop :=
  ∃ before after, xs = before ++ (u, .order .ping) :: after ∧ ∀ x ∈ after, x.2.isPong = false

variable {xs is : List (Time × Incident)} {x : Time × Incident} {now u s d : Time} {i : Incident}

lemma unanswered_concat_iff : Unanswered (xs ++ [x]) u ↔
    x = (u, .order .ping) ∨ (x.2.isPong = false ∧ Unanswered xs u) := by
  constructor
  · rintro ⟨before, after, he, hafter⟩
    rcases List.eq_nil_or_concat after with rfl | ⟨after, y, rfl⟩
    · obtain ⟨-, hlast⟩ := List.append_inj' he rfl
      exact .inl (List.singleton_inj.mp hlast)
    · rw [List.concat_eq_append, ← List.cons_append, ← List.append_assoc] at he
      obtain ⟨rfl, hlast⟩ := List.append_inj' he rfl
      obtain rfl := List.singleton_inj.mp hlast
      exact .inr ⟨hafter x (by simp), before, after, rfl, fun y hy => hafter y (by simp [hy])⟩
  · rintro (rfl | ⟨hx, before, after, rfl, hafter⟩)
    · exact ⟨xs, [], rfl, by simp⟩
    · refine ⟨before, after ++ [x], by simp, fun y hy => ?_⟩
      rcases List.mem_append.mp hy with hy | hy
      · exact hafter y hy
      · rwa [List.mem_singleton.mp hy]

lemma Unanswered.mem (h : Unanswered xs u) : (u, .order .ping) ∈ xs := by
  obtain ⟨before, after, rfl, -⟩ := h
  simp

namespace Task

variable {t : Task}

/-- What comes while the task waits for whatever comes first. In any other phase it only writes, or
has not begun, or is about to end. -/
def met (t : Task) (now : Time) (i : Incident) : List (Time × Incident) :=
  if t.phase = .idle then [(now, i)] else []

def attended (t : Task) : List (Time × Incident) → List (Time × Incident)
  | [] => []
  | (now, i) :: rest => t.met now i ++ (t.step now i).1.attended rest

structure Quiet (t : Task) (now : Time) (r : Task × List Effect) : Prop where
  pingSince_eq : r.1.pingSince = t.pingSince
  pongTime_eq : r.1.pongTime = t.pongTime
  phase_eq : ∀ d, r.1.phase = .writing d → t.phase = .writing d
  not_mem : ∀ m d, .write m d ∉ r.2
  finish_eq : ∀ d, .finish d ∈ r.2 → d = now + closingTime

lemma quiet_nil (t : Task) (now : Time) : t.Quiet now (t, []) :=
  ⟨rfl, rfl, fun _ => id, by simp, by simp⟩

lemma quiet_enqueue (t : Task) (now : Time) (a : Action) : t.Quiet now (t, [.enqueue a]) :=
  ⟨rfl, rfl, fun _ => id, by simp, by simp⟩

lemma quiet_phase {p : Phase} (h : ∀ d, p ≠ .writing d) {fs : List Effect}
    (hw : ∀ m d, .write m d ∉ fs) (hf : ∀ d, .finish d ∈ fs → d = now + closingTime) :
    t.Quiet now ({ t with phase := p }, fs) :=
  ⟨rfl, rfl, fun d hd => absurd hd (h d), hw, hf⟩

lemma quiet_finish (t : Task) (now : Time) : t.Quiet now (t.finish now) :=
  quiet_phase (by simp) (by simp) (by simp)

inductive Turn (t : Task) (now : Time) (i : Incident) : Prop where
  | order (o : Order) (hp : t.phase = .idle) (hi : i = .order o) (hs : t.step now i = t.write now o)
  | pong (hp : t.phase = .idle) (hi : i.isPong = true)
      (hs : t.step now i = ({ t with pingSince := none }, []))
  | overdue (hp : t.phase = .idle) (hi : i = .tick) (ho : t.pongIsOverdue now = true)
      (hs : t.step now i = t.part now pongReason)
  | stuck (d : Time) (hp : t.phase = .writing d) (hi : i = .tick) (hd : d ≤ now)
      (hs : t.step now i = t.part now pongReason)
  | shutdown (hp : t.phase = .idle) (hi : i = .shutdown)
      (hs : t.step now i = t.part now shutdownReason)
  | quiet (hp : t.phase = .idle → i.isPong = false ∧ ∀ o, i ≠ .order o) (hs : t.Quiet now (t.step now i))

lemma turn_idle (hp : t.phase = .idle) (now : Time) (i : Incident) : t.Turn now i := by
  have hstep : t.step now i = t.stepIdle now i := by simp [step, hp]
  cases i with
  | order o => exact .order o hp rfl hstep
  | shutdown => exact .shutdown hp rfl hstep
  | message m =>
    cases m with
    | pong bs => exact .pong hp rfl hstep
    | text s => exact .quiet (by simp [Incident.isPong]) (hstep ▸ quiet_enqueue t now _)
    | binary bs => exact .quiet (by simp [Incident.isPong]) (hstep ▸ quiet_enqueue t now _)
    | ping bs => exact .quiet (by simp [Incident.isPong]) (hstep ▸ quiet_nil t now)
    | close c => exact .quiet (by simp [Incident.isPong]) (hstep ▸ quiet_finish t now)
  | tick =>
    by_cases ho : t.pongIsOverdue now = true
    · exact .overdue hp rfl ho (hstep.trans (if_pos ho))
    · exact .quiet (by simp [Incident.isPong]) ((hstep.trans (if_neg ho)) ▸ quiet_nil t now)
  | released => exact .quiet (by simp [Incident.isPong]) (hstep ▸ quiet_finish t now)
  | broken => exact .quiet (by simp [Incident.isPong]) (hstep ▸ quiet_finish t now)
  | _ => exact .quiet (by simp [Incident.isPong]) (hstep ▸ quiet_nil t now)

lemma quiet_of_handshake (hp : t.phase = .handshake d) (now : Time) (i : Incident) :
    t.Quiet now (t.step now i) := by
  cases i with
  | upgraded => simpa [step, hp, subscribe] using quiet_phase (by simp) (by simp) (by simp)
  | turnedAway => simpa [step, hp] using quiet_phase (by simp) (by simp) (by simp)
  | tick =>
    simp only [step, hp]
    split
    · exact quiet_phase (by simp) (by simp) (by simp)
    · exact quiet_nil t now
  | _ => simpa [step, hp] using quiet_nil t now

lemma quiet_of_parting (hp : t.phase = .parting d) (now : Time) (i : Incident) :
    t.Quiet now (t.step now i) := by
  cases i with
  | tick =>
    simp only [step, hp]
    split
    · exact quiet_finish t now
    · exact quiet_nil t now
  | written => simpa [step, hp] using quiet_finish t now
  | writeFailed => simpa [step, hp] using quiet_finish t now
  | _ => simpa [step, hp] using quiet_nil t now

lemma quiet_of_finishing (hp : t.phase = .finishing d) (now : Time) (i : Incident) :
    t.Quiet now (t.step now i) := by
  have hleave : t.Quiet now t.unsubscribe := quiet_phase (by simp) (by simp) (by simp)
  cases i with
  | tick =>
    simp only [step, hp]
    split
    · exact hleave
    · exact quiet_nil t now
  | written => simpa [step, hp] using hleave
  | writeFailed => simpa [step, hp] using hleave
  | _ => simpa [step, hp] using quiet_nil t now

lemma turn_writing (hp : t.phase = .writing d) (now : Time) (i : Incident) : t.Turn now i := by
  have hn : t.phase = .idle → i.isPong = false ∧ ∀ o, i ≠ .order o := by simp [hp]
  cases i with
  | tick =>
    by_cases hd : d ≤ now
    · exact .stuck d hp rfl hd (by simp [step, hp, hd])
    · exact .quiet hn (by simpa [step, hp, hd] using quiet_nil t now)
  | written => exact .quiet hn (by simpa [step, hp] using quiet_phase (by simp) (by simp) (by simp))
  | writeFailed => exact .quiet hn (by simpa [step, hp] using quiet_finish t now)
  | _ => exact .quiet hn (by simpa [step, hp] using quiet_nil t now)

lemma turn (t : Task) (now : Time) (i : Incident) : t.Turn now i := by
  cases hp : t.phase with
  | idle => exact turn_idle hp now i
  | writing d => exact turn_writing hp now i
  | handshake d => exact .quiet (by simp [hp]) (quiet_of_handshake hp now i)
  | parting d => exact .quiet (by simp [hp]) (quiet_of_parting hp now i)
  | finishing d => exact .quiet (by simp [hp]) (quiet_of_finishing hp now i)
  | ended => exact .quiet (by simp [hp]) (by simpa [step, hp] using quiet_nil t now)

lemma pongTime_step (t : Task) (now : Time) (i : Incident) :
    (t.step now i).1.pongTime = t.pongTime := by
  cases t.turn now i with
  | order o hp hi hs =>
    rw [hs]
    cases o <;> rfl
  | pong hp hi hs => rw [hs]
  | overdue hp hi ho hs => rw [hs, part]
  | stuck d hp hi hd hs => rw [hs, part]
  | shutdown hp hi hs => rw [hs, part]
  | quiet hp hs => exact hs.pongTime_eq

lemma pongTime_run (t : Task) (is : List (Time × Incident)) :
    (t.run is).1.pongTime = t.pongTime := by
  induction is generalizing t with
  | nil => rfl
  | cons x is ih => rw [run_cons, ih, pongTime_step]

structure Watched (t : Task) (xs : List (Time × Incident)) : Prop where
  unanswered : ∀ s ∈ t.pingSince, Unanswered xs s
  least : ∀ u, Unanswered xs u → ∃ s ∈ t.pingSince, s ≤ u
  writing : ∀ d, t.phase = .writing d → ∃ before taken o,
    xs = before ++ [(taken, .order o)] ∧ d = t.pingSince.getD taken + t.pongTime

lemma unanswered_met_iff (hi : t.phase = .idle → i.isPong = false ∧ i ≠ .order .ping) :
    Unanswered (xs ++ t.met now i) u ↔ Unanswered xs u := by
  unfold met
  split
  · next hp =>
    obtain ⟨hpong, hping⟩ := hi hp
    rw [unanswered_concat_iff]
    simp [hpong, hping]
  · rw [List.append_nil]

lemma Watched.keep {r : Task} (h : t.Watched xs)
    (hi : t.phase = .idle → i.isPong = false ∧ i ≠ .order .ping)
    (hs : r.pingSince = t.pingSince)
    (hw : ∀ d, r.phase = .writing d → ∃ before taken o,
      xs ++ t.met now i = before ++ [(taken, .order o)] ∧
        d = r.pingSince.getD taken + r.pongTime) :
    r.Watched (xs ++ t.met now i) where
  unanswered s hm := (unanswered_met_iff hi).mpr (h.unanswered s (hs ▸ hm))
  least u hu := hs ▸ h.least u ((unanswered_met_iff hi).mp hu)
  writing := hw

lemma Watched.ping (h : t.Watched xs) (hx : ∀ x ∈ xs, x.1 ≤ now) :
    Unanswered (xs ++ [(now, .order .ping)]) (t.pingSince.getD now) ∧
    ∀ u, Unanswered (xs ++ [(now, .order .ping)]) u → t.pingSince.getD now ≤ u := by
  simp only [unanswered_concat_iff]
  -- without a mark no ping is open, and with one it is not later than now
  cases hs : t.pingSince with
  | none =>
    refine ⟨.inl rfl, ?_⟩
    rintro u (hu | ⟨-, hu⟩)
    · obtain rfl : now = u := congrArg Prod.fst hu
      exact Nat.le_refl _
    · obtain ⟨s, hm, -⟩ := h.least u hu
      rw [hs] at hm
      cases hm
  | some s =>
    have hopen : Unanswered xs s := h.unanswered s hs
    refine ⟨.inr ⟨rfl, hopen⟩, ?_⟩
    rintro u (hu | ⟨-, hu⟩)
    · obtain rfl : now = u := congrArg Prod.fst hu
      exact hx _ hopen.mem
    · obtain ⟨s', hm, hle⟩ := h.least u hu
      obtain rfl : s = s' := Option.some.inj (hs.symm.trans hm)
      exact hle

lemma Watched.write (h : t.Watched xs) (hx : ∀ x ∈ xs, x.1 ≤ now) (hp : t.phase = .idle) (o : Order) :
    (t.write now o).1.Watched (xs ++ t.met now (.order o)) := by
  have hw : ∀ d, (t.write now o).1.phase = .writing d → ∃ before taken o',
      xs ++ t.met now (.order o) = before ++ [(taken, .order o')] ∧
        d = (t.write now o).1.pingSince.getD taken + (t.write now o).1.pongTime := by
    intro d hd
    refine ⟨xs, now, o, by rw [met, if_pos hp], ?_⟩
    obtain rfl := Phase.writing.inj hd
    rfl
  cases o with
  | ping =>
    obtain ⟨hopen, hleast⟩ := h.ping hx
    have hmet : t.met now (.order .ping) = [(now, .order .ping)] := if_pos hp
    refine ⟨?_, fun u hu => ⟨_, rfl, hleast u (hmet ▸ hu)⟩, hw⟩
    rintro s ⟨⟩
    exact hmet ▸ hopen
  | text s => exact h.keep (by simp [Incident.isPong]) rfl hw
  | binary bs => exact h.keep (by simp [Incident.isPong]) rfl hw

lemma Watched.step (h : t.Watched xs) (hx : ∀ x ∈ xs, x.1 ≤ now) (i : Incident) :
    (t.step now i).1.Watched (xs ++ t.met now i) := by
  have hpart : ∀ reason d, (t.part now reason).1.phase ≠ .writing d := by simp [part]
  cases t.turn now i with
  | order o hp hi hs =>
    rw [hs, hi]
    exact h.write hx hp o
  | pong hp hi hs =>
    rw [hs]
    refine ⟨by simp, fun u hu => ?_, fun d hd => by simp [hp] at hd⟩
    rw [met, if_pos hp, unanswered_concat_iff] at hu
    rcases hu with hu | ⟨hn, -⟩
    · obtain ⟨-, rfl⟩ := Prod.mk.inj hu
      cases hi
    · exact absurd hi (by simp [hn])
  | overdue hp hi ho hs =>
    rw [hs]
    exact h.keep (by simp [hi, Incident.isPong]) rfl fun d hd => absurd hd (hpart _ d)
  | stuck d hp hi hd hs =>
    rw [hs]
    exact h.keep (by simp [hp]) rfl fun d hd => absurd hd (hpart _ d)
  | shutdown hp hi hs =>
    rw [hs]
    exact h.keep (by simp [hi, Incident.isPong]) rfl fun d hd => absurd hd (hpart _ d)
  | quiet hp hs =>
    -- a task that is still writing has attended nothing since
    refine h.keep (fun hidle => ⟨(hp hidle).1, (hp hidle).2 .ping⟩) hs.pingSince_eq fun d hd => ?_
    have hwriting := hs.phase_eq d hd
    obtain ⟨before, taken, o, hxs, hdeadline⟩ := h.writing d hwriting
    refine ⟨before, taken, o, ?_, by rw [hs.pingSince_eq, hs.pongTime_eq, hdeadline]⟩
    rw [met, if_neg (by simp [hwriting]), List.append_nil, hxs]

lemma Watched.run (h : t.Watched xs) (hs : (xs ++ is).Pairwise (·.1 ≤ ·.1)) :
    (t.run is).1.Watched (xs ++ t.attended is) := by
  induction is generalizing t xs with
  | nil => simpa [Task.run, attended] using h
  | cons x is ih =>
    obtain ⟨now, i⟩ := x
    obtain ⟨-, -, hle⟩ := List.pairwise_append.mp hs
    have hstep := h.step (fun x hx => hle x hx (now, i) List.mem_cons_self) i
    rw [run_cons, attended, ← List.append_assoc]
    refine ih hstep ?_
    -- not all that happens is attended, but what is comes in the same order
    have hsub : (xs ++ t.met now i ++ is).Sublist (xs ++ (now, i) :: is) := by
      rw [List.append_assoc]
      refine List.Sublist.append_left ?_ xs
      unfold met
      split
      · exact .refl _
      · exact List.sublist_cons_self _ _
    exact hs.sublist hsub

lemma watched_start (l : Listener) (h : Handle) (pongTime handshakeTime now : Time)
    (shutdown : Bool) : (start l h pongTime handshakeTime now shutdown).Watched [] where
  unanswered s hs := by cases hs
  least u hu := by
    obtain ⟨before, after, he, -⟩ := hu
    simp at he
  writing d hd := by
    cases shutdown <;> cases hd

lemma Watched.pingSince_eq_some_iff (h : t.Watched xs) :
    t.pingSince = some s ↔ IsLeast {u | Unanswered xs u} s := by
  constructor
  · intro hs
    refine ⟨h.unanswered s hs, fun u hu => ?_⟩
    obtain ⟨s', hm, hle⟩ := h.least u hu
    obtain rfl : s = s' := Option.some.inj (hs.symm.trans hm)
    exact hle
  · rintro ⟨hopen, hleast⟩
    obtain ⟨s', hm, hle⟩ := h.least s hopen
    obtain rfl : s = s' := Nat.le_antisymm (hleast (h.unanswered s' hm)) hle
    exact hm

lemma Watched.isSome_pingSince_iff (h : t.Watched xs) :
    t.pingSince.isSome ↔ ∃ u, Unanswered xs u := by
  rw [Option.isSome_iff_exists]
  exact ⟨fun ⟨s, hs⟩ => ⟨s, h.unanswered s hs⟩, fun ⟨u, hu⟩ => (h.least u hu).imp fun _ => And.left⟩

lemma attended_sublist (t : Task) (is : List (Time × Incident)) : (t.attended is).Sublist is := by
  induction is generalizing t with
  | nil => exact .refl _
  | cons x is ih =>
    rw [attended, met]
    split
    · exact (ih _).cons_cons _
    · exact (ih _).cons _

lemma pingSince_step (hs : t.pingSince = some s) (hi : ∀ x ∈ t.met now i, x.2.isPong = false) :
    (t.step now i).1.pingSince = some s := by
  cases t.turn now i with
  | order o hp hi hstep =>
    rw [hstep]
    cases o with
    | ping => simp [Task.write, notePing, hs]
    | text _ => exact hs
    | binary _ => exact hs
  | pong hp hpong hstep =>
    have hn := hi (now, i) (by simp [met, hp])
    rw [hpong] at hn
    cases hn
  | overdue hp hi ho hstep => rwa [hstep, part]
  | stuck d hp hi hd hstep => rwa [hstep, part]
  | shutdown hp hi hstep => rwa [hstep, part]
  | quiet hp hq => rw [hq.pingSince_eq, hs]

lemma pingSince_run (hs : t.pingSince = some s) (hi : ∀ x ∈ t.attended is, x.2.isPong = false) :
    (t.run is).1.pingSince = some s := by
  induction is generalizing t with
  | nil => exact hs
  | cons x is ih =>
    rw [run_cons]
    exact ih (pingSince_step hs fun y hy => hi y (List.mem_append_left _ hy))
      fun y hy => hi y (List.mem_append_right _ hy)

lemma write_of_step {m : WebSocket.Message} (h : .write m d ∈ (t.step now i).2) :
    (∃ reason, m = .close (some reason) ∧ d = now + closingTime) ∨
    ∃ o, i = .order o ∧ m = orderMessage o ∧ t.phase = .idle ∧
      d = (t.step now i).1.writeDeadline now := by
  have hpart : ∀ {reason}, .write m d ∈ (t.part now reason).2 →
      m = .close (some reason) ∧ d = now + closingTime := by
    intro reason hm
    simpa [part] using hm
  cases t.turn now i with
  | order o hp hi hs =>
    right
    rw [hs] at h ⊢
    obtain ⟨rfl, rfl⟩ := Effect.write.inj (List.mem_singleton.mp h)
    exact ⟨o, hi, rfl, hp, rfl⟩
  | pong hp hi hs =>
    rw [hs] at h
    cases h
  | overdue hp hi ho hs => exact .inl ⟨_, hpart (hs ▸ h)⟩
  | stuck w hp hi hd hs => exact .inl ⟨_, hpart (hs ▸ h)⟩
  | shutdown hp hi hs => exact .inl ⟨_, hpart (hs ▸ h)⟩
  | quiet hp hs => exact absurd h (hs.not_mem m d)

lemma finish_of_step (h : .finish d ∈ (t.step now i).2) : d = now + closingTime := by
  cases t.turn now i with
  | quiet hp hs => exact hs.finish_eq d h
  | order o hp hi hs => simp [hs, Task.write] at h
  | pong hp hi hs => simp [hs] at h
  | overdue hp hi ho hs => simp [hs, part] at h
  | stuck w hp hi hd hs => simp [hs, part] at h
  | shutdown hp hi hs => simp [hs, part] at h

lemma exists_of_pongIsOverdue (h : t.pongIsOverdue now = true) :
    ∃ s, t.pingSince = some s ∧ s + t.pongTime ≤ now := by
  unfold pongIsOverdue pongDeadline? at h
  cases hs : t.pingSince with
  | none => simp [hs] at h
  | some s => exact ⟨s, rfl, by simpa [hs] using h⟩

lemma close_of_step (h : .write (.close (some pongReason)) d ∈ (t.step now i).2) :
    i = .tick ∧ ((t.phase = .idle ∧ ∃ s, t.pingSince = some s ∧ s + t.pongTime ≤ now) ∨
      ∃ w, t.phase = .writing w ∧ w ≤ now) := by
  cases t.turn now i with
  | order o hp hi hs =>
    rw [hs] at h
    obtain ⟨hm, -⟩ := Effect.write.inj (List.mem_singleton.mp h)
    cases o <;> cases hm
  | pong hp hi hs =>
    rw [hs] at h
    cases h
  | overdue hp hi ho hs => exact ⟨hi, .inl ⟨hp, exists_of_pongIsOverdue ho⟩⟩
  | stuck w hp hi hd hs => exact ⟨hi, .inr ⟨w, hp, hd⟩⟩
  | shutdown hp hi hs =>
    rw [hs] at h
    obtain ⟨hm, -⟩ := Effect.write.inj (List.mem_singleton.mp h)
    exact absurd hm (by decide)
  | quiet hp hs => exact absurd h (hs.not_mem _ d)

lemma pingSince_of_isPong (hp : t.phase = .idle) (hi : i.isPong = true) :
    (t.step now i).1.pingSince = none := by
  cases t.turn now i with
  | pong _ _ hs => rw [hs]
  | order o _ hi' _ => simp [hi', Incident.isPong] at hi
  | overdue _ hi' _ _ => simp [hi', Incident.isPong] at hi
  | stuck d hp' _ _ _ => simp [hp] at hp'
  | shutdown _ hi' _ => simp [hi', Incident.isPong] at hi
  | quiet hn _ => simp [(hn hp).1] at hi

lemma Watched.writeDeadline_le (h : t.Watched xs) (hx : ∀ x ∈ xs, x.1 ≤ now) :
    t.writeDeadline now ≤ now + t.pongTime := by
  unfold writeDeadline
  cases hs : t.pingSince with
  | none => exact Nat.le_refl _
  | some s => exact Nat.add_le_add_right (hx _ (h.unanswered s hs).mem) _

lemma le_of_mem_met (hx : ∀ x ∈ xs, x.1 ≤ now) : ∀ x ∈ xs ++ t.met now i, x.1 ≤ now := by
  intro x hm
  rcases List.mem_append.mp hm with hm | hm
  · exact hx x hm
  · unfold met at hm
    split at hm
    · rw [List.mem_singleton.mp hm]
    · cases hm

lemma Watched.close (h : t.Watched xs)
    (hm : .write (.close (some pongReason)) d ∈ (t.step now i).2) : i = .tick ∧
      ((t.phase = .idle ∧ ∃ s, IsLeast {u | Unanswered xs u} s ∧ s + t.pongTime ≤ now) ∨
        ∃ before taken o, xs = before ++ [(taken, .order o)] ∧
          t.phase = .writing (t.pingSince.getD taken + t.pongTime) ∧
          t.pingSince.getD taken + t.pongTime ≤ now) := by
  obtain ⟨hi, ⟨hp, s, hmark, hle⟩ | ⟨w, hp, hle⟩⟩ := close_of_step hm
  · exact ⟨hi, .inl ⟨hp, s, h.pingSince_eq_some_iff.mp hmark, hle⟩⟩
  · obtain ⟨before, taken, o, hxs, rfl⟩ := h.writing w hp
    exact ⟨hi, .inr ⟨before, taken, o, hxs, hp, hle⟩⟩

lemma Watched.deadline (h : t.Watched xs) (hx : ∀ x ∈ xs, x.1 ≤ now) {m : WebSocket.Message}
    (hm : .write m d ∈ (t.step now i).2) :
    (∃ reason, m = .close (some reason) ∧ d = now + closingTime) ∨
    ∃ o, i = .order o ∧ m = orderMessage o ∧
      (∀ s, (t.step now i).1.pingSince = some s → d = s + t.pongTime) ∧
      ((t.step now i).1.pingSince = none → d = now + t.pongTime) ∧ d ≤ now + t.pongTime := by
  rcases write_of_step hm with hclose | ⟨o, hi, hmo, -, rfl⟩
  · exact .inl hclose
  · have hle := (h.step hx i).writeDeadline_le (le_of_mem_met hx)
    rw [pongTime_step] at hle
    refine .inr ⟨o, hi, hmo, fun s hmark => ?_, fun hmark => ?_, hle⟩
    · rw [writeDeadline, hmark, pongTime_step]
      rfl
    · rw [writeDeadline, hmark, pongTime_step]
      rfl

lemma Watched.overdue (h : t.Watched xs) (hp : t.phase = .idle)
    (hs : IsLeast {u | Unanswered xs u} s) (hlate : s + t.pongTime ≤ now) :
    t.step now .tick = t.part now pongReason := by
  have hmark : t.pingSince = some s := h.pingSince_eq_some_iff.mpr hs
  have ho : t.pongIsOverdue now = true := by
    rw [pongIsOverdue, pongDeadline?, hmark]
    exact decide_eq_true hlate
  have hstep : t.step now .tick = t.stepIdle now .tick := by simp [Task.step, hp]
  exact hstep.trans (if_pos ho)

lemma step_stuck (hp : t.phase = .writing d) (hlate : d ≤ now) :
    t.step now .tick = t.part now pongReason := by
  simp [step, hp, hlate]

structure Supervises (pongTime : Time) (t : Task) (is xs : List (Time × Incident)) : Prop where
  mark : ∀ s, t.pingSince = some s ↔ IsLeast {u | Unanswered xs u} s
  marked : t.pingSince.isSome ↔ ∃ u, Unanswered xs u
  stays : ∀ s js, t.pingSince = some s → (∀ x ∈ t.attended js, x.2.isPong = false) →
    (t.run js).1.pongDeadline? = some (s + pongTime)
  answered : ∀ now i, t.phase = .idle → i.isPong = true → (t.step now i).1.pingSince = none
  closes : ∀ now s, t.phase = .idle → IsLeast {u | Unanswered xs u} s → s + pongTime ≤ now →
    t.step now .tick = t.part now pongReason
  closesStuck : ∀ now d, t.phase = .writing d → d ≤ now →
    t.step now .tick = t.part now pongReason
  closesLate : ∀ now i, (∀ x ∈ is, x.1 ≤ now) → ∀ d,
    .write (.close (some pongReason)) d ∈ (t.step now i).2 → i = .tick ∧
      ((t.phase = .idle ∧ ∃ s, IsLeast {u | Unanswered xs u} s ∧ s + pongTime ≤ now) ∨
        ∃ before taken o, xs = before ++ [(taken, .order o)] ∧
          t.phase = .writing (t.pingSince.getD taken + pongTime) ∧
          t.pingSince.getD taken + pongTime ≤ now)
  writes : ∀ now i, (∀ x ∈ is, x.1 ≤ now) → ∀ m d, .write m d ∈ (t.step now i).2 →
    (∃ reason, m = .close (some reason) ∧ d = now + closingTime) ∨
    (∃ o, i = .order o ∧ m = orderMessage o ∧
      (∀ s, (t.step now i).1.pingSince = some s → d = s + pongTime) ∧
      ((t.step now i).1.pingSince = none → d = now + pongTime) ∧ d ≤ now + pongTime)

theorem pong_supervised (l : Listener) (h : Handle) (pongTime handshakeTime began : Time)
    (shutdown : Bool) {is : List (Time × Incident)} (hs : is.Pairwise (·.1 ≤ ·.1)) :
    let t₀ := start l h pongTime handshakeTime began shutdown
    Supervises pongTime (t₀.run is).1 is (t₀.attended is) := by
  intro t₀
  have htime : (t₀.run is).1.pongTime = pongTime := pongTime_run t₀ is
  have hw : (t₀.run is).1.Watched (t₀.attended is) := by
    simpa using (watched_start l h pongTime handshakeTime began shutdown).run hs
  have hattended {now : Time} (his : ∀ x ∈ is, x.1 ≤ now) : ∀ x ∈ t₀.attended is, x.1 ≤ now :=
    fun x hx => his x ((attended_sublist t₀ is).subset hx)
  exact
    { mark := fun s => hw.pingSince_eq_some_iff
      marked := hw.isSome_pingSince_iff
      stays := fun s js hmark hjs => by
        rw [pongDeadline?, pingSince_run hmark hjs, pongTime_run, htime]
        rfl
      answered := fun now i => pingSince_of_isPong
      closes := fun now s hp hleast hlate => hw.overdue hp hleast (htime.symm ▸ hlate)
      closesStuck := fun now d => step_stuck
      closesLate := fun now i his d hm => by
        have hclose := hw.close hm
        rwa [htime] at hclose
      writes := fun now i his m d hm => by
        have hdeadline := hw.deadline (hattended his) hm
        rwa [htime] at hdeadline }

theorem pong_supervised_three :
    let is : List (Time × Incident) :=
      [(0, .upgraded), (5, .order .ping), (5, .written), (6, .message (.pong [])),
        (10, .order .ping), (10, .written), (15, .order .ping), (16, .written)]
    let t₀ := start .plain ⟨1, 1⟩ 15 10 0 false
    is.Pairwise (·.1 ≤ ·.1) ∧ IsLeast {u | Unanswered (t₀.attended is) u} 10 ∧
      (t₀.run is).1.step 25 .tick = (t₀.run is).1.part 25 pongReason := by
  intro is t₀
  have hs : is.Pairwise (·.1 ≤ ·.1) := by simp [is]
  have h := pong_supervised .plain ⟨1, 1⟩ 15 10 0 false hs
  have hleast : IsLeast {u | Unanswered (t₀.attended is) u} 10 := (h.mark 10).mp rfl
  exact ⟨hs, hleast, h.closes 25 10 rfl hleast (by decide)⟩

end Task

end Rendezvous.Connection
