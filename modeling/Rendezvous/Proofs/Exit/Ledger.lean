import Mathlib.Data.List.Induction
import Rendezvous.Proofs.Exit.Turn

/-! What a run over usable names has told agrees with what is at their places: a channel is listening
where one more has been opened than closed. -/

namespace Rendezvous.Exit

namespace Operation

variable {op : Operation} {path name : String} {x : Option Socket}

lemma turn_owned (hx : ∀ opened ch, x = some (.listening opened ch) → opened = op.name) :
    ∀ opened ch, (op.turn path x).2 = some (.listening opened ch) → opened = op.name := by
  intro opened ch h
  cases op <;> rcases x with _ | (⟨opened', ch'⟩ | _) <;> simp_all [turn, name]

end Operation

namespace Sockets

variable {s t : Sockets} {ops : List Operation} {op : Operation} {name path : String}
  {x : Option Socket}

def told (s : Sockets) (ops : List Operation) : List (Operation × Result) := ops.zip (s.run ops).1

def opens (path : String) : Operation × Result → Bool
  | (_, .listened (.ok opened)) => opened == path
  | _ => false

def closes (s : Sockets) (path : String) : Operation × Result → Bool
  | (.close name, .closed true) => s.path name == path
  | _ => false

def opened (s : Sockets) (ops : List Operation) (path : String) : Nat := (s.told ops).countP (opens path)

def closed (s : Sockets) (ops : List Operation) (path : String) : Nat :=
  (s.told ops).countP (s.closes path)

def listening : Option Socket → Nat
  | some (.listening ..) => 1
  | _ => 0

lemma listening_pos_iff : 0 < listening x ↔ ∃ opened ch, x = some (.listening opened ch) := by
  rcases x with _ | (⟨opened, ch⟩ | _) <;> simp [listening]

lemma length_run (s : Sockets) (ops : List Operation) : (s.run ops).1.length = ops.length := by
  induction ops generalizing s with
  | nil => rfl
  | cons op ops ih => rw [run, List.length_cons, List.length_cons, ih]

lemma run_concat (s : Sockets) (ops : List Operation) (op : Operation) :
    s.run (ops ++ [op]) =
      ((s.run ops).1 ++ [((s.run ops).2.perform op).1], ((s.run ops).2.perform op).2) :=
  run_append s ops [op]

lemma told_concat (s : Sockets) (ops : List Operation) (op : Operation) :
    s.told (ops ++ [op]) = s.told ops ++ [(op, ((s.run ops).2.perform op).1)] := by
  rw [told, run_concat, List.zip_append (length_run s ops).symm]
  rfl

lemma opened_concat (s : Sockets) (ops : List Operation) (op : Operation) (path : String) :
    s.opened (ops ++ [op]) path =
      s.opened ops path + if opens path (op, ((s.run ops).2.perform op).1) then 1 else 0 := by
  rw [opened, told_concat, List.countP_append, List.countP_singleton, opened]

lemma closed_concat (s : Sockets) (ops : List Operation) (op : Operation) (path : String) :
    s.closed (ops ++ [op]) path =
      s.closed ops path + if s.closes path (op, ((s.run ops).2.perform op).1) then 1 else 0 := by
  rw [closed, told_concat, List.countP_append, List.countP_singleton, closed]

def effect (s : Sockets) (op : Operation) : Result × Option Socket :=
  if s.isDirectory (s.seat op.name) then (op.barred, s.file? (s.seat op.name))
  else op.turn (s.path op.name) (s.file? (s.seat op.name))

structure Sound (s : Sockets) : Prop where
  owned : ∀ name, s.Usable name → s.Owned name (s.seat name)
  vacant : ∀ p, s.isDirectory p = true → s.file? p = none

lemma Sound.perform (h : s.Sound) (hu : s.Usable op.name) :
    (s.perform op).1 = (s.effect op).1 ∧
      Turns s (s.perform op).2 (s.seat op.name) (s.effect op).2 := by
  rw [effect]
  split
  · rename_i htaken
    have hbarred : s.Barred op.name (s.seat op.name) := ⟨hu.reaches, htaken, h.vacant _ htaken⟩
    rw [hbarred.perform]
    exact ⟨rfl, turns_self rfl⟩
  · rename_i hfree
    have hseated : s.Seated op.name (s.seat op.name) := ⟨hu.reaches, Bool.eq_false_iff.mpr hfree⟩
    exact hseated.perform (h.owned _ hu)

lemma Turns.file?_seat (h : Turns s t (s.seat op.name) x) (hne : name ≠ op.name) :
    t.file? (s.seat name) = s.file? (s.seat name) :=
  h.elsewhere _ fun he => hne (seat_injective he)

lemma Sound.turns (h : s.Sound) (hu : s.Usable op.name)
    (ht : Turns s t (s.seat op.name) (s.effect op).2) : t.Sound where
  owned name hname := by
    rw [Owned, seat_congr ht.directory]
    have hname' := hname.congr ht.directory.symm
    by_cases he : name = op.name
    · subst he
      rw [ht.here, effect]
      split
      · exact h.owned _ hu
      · exact Operation.turn_owned (h.owned _ hu)
    · rw [ht.file?_seat he]
      exact h.owned _ hname'
  vacant p hp := by
    rw [isDirectory_congr ht.directory] at hp
    by_cases he : p = s.seat op.name
    · rw [he, ht.here, effect, if_pos (he ▸ hp)]
      exact h.vacant _ (he ▸ hp)
    · rw [ht.elsewhere p he]
      exact h.vacant p hp

lemma balance (s : Sockets) (op : Operation) :
    listening (s.effect op).2 + (if s.closes (s.path op.name) (op, (s.effect op).1) then 1 else 0) =
      listening (s.file? (s.seat op.name)) +
        (if opens (s.path op.name) (op, (s.effect op).1) then 1 else 0) := by
  rw [effect]
  split
  · cases op <;> rfl
  · rcases s.file? (s.seat op.name) with _ | (⟨opened, ch⟩ | _) <;> cases op <;>
      simp [Operation.turn, Operation.name, listening, opens, closes]

lemma opens_elsewhere (hne : s.path op.name ≠ path) : opens path (op, (s.effect op).1) = false := by
  rw [effect]
  split
  · cases op <;> rfl
  · rcases s.file? (s.seat op.name) with _ | (⟨opened, ch⟩ | _) <;> cases op <;>
      first | rfl | exact beq_false_of_ne hne

lemma closes_elsewhere {r : Result} (hne : s.path op.name ≠ path) : s.closes path (op, r) = false := by
  unfold closes
  split
  · rename_i he
    obtain ⟨rfl, -⟩ := Prod.mk.inj he
    exact beq_false_of_ne hne
  · rfl

lemma closes_congr (h : t.directory = s.directory) (x : Operation × Result) :
    t.closes path x = s.closes path x := by
  unfold closes
  split
  · rw [path_congr h]
  · rfl

lemma opens_taken (h : s.isDirectory (s.seat op.name) = true) :
    opens path (op, (s.effect op).1) = false := by
  rw [effect, if_pos h]
  cases op <;> rfl

/-- Where a run has come to, and that this agrees with what it has told. -/
structure Ledger (s : Sockets) (ops : List Operation) : Prop where
  directory : (s.run ops).2.directory = s.directory
  sound : (s.run ops).2.Sound
  balanced : ∀ name, s.Usable name → s.opened ops (s.path name) =
    s.closed ops (s.path name) + listening ((s.run ops).2.file? (s.seat name))
  never : ∀ name, s.Usable name → s.isDirectory (s.seat name) = true → s.opened ops (s.path name) = 0

lemma Ledger.concat (h : s.Ledger ops) (hu : s.Usable op.name) : s.Ledger (ops ++ [op]) := by
  have huse : (s.run ops).2.Usable op.name := hu.congr h.directory
  obtain ⟨htold, hturns⟩ := h.sound.perform huse
  have hpath : ∀ name, (s.run ops).2.path name = s.path name := fun _ => path_congr h.directory
  have hseat : ∀ name, (s.run ops).2.seat name = s.seat name := fun _ => seat_congr h.directory
  have helsewhere : ∀ name, s.Usable name → name ≠ op.name →
      (s.run ops).2.path op.name ≠ s.path name := by
    intro name hname hne he
    rw [hpath] at he
    exact hne (hname.path_injective hu he.symm)
  constructor
  · rw [run_concat]
    exact hturns.directory.trans h.directory
  · rw [run_concat]
    exact h.sound.turns huse hturns
  · intro name hname
    have hbalanced := h.balanced name hname
    rw [opened_concat, closed_concat, run_concat, htold, ← closes_congr h.directory]
    -- only the counts of the own path move
    by_cases he : name = op.name
    · subst he
      have hbalance := balance (s.run ops).2 op
      rw [hpath, hseat] at hbalance
      rw [hseat] at hturns
      rw [hturns.here]
      omega
    · rw [opens_elsewhere (helsewhere name hname he), closes_elsewhere (helsewhere name hname he),
        ← hseat, hturns.file?_seat he, hseat]
      exact hbalanced
  · intro name hname htaken
    rw [opened_concat, h.never name hname htaken, htold]
    by_cases he : name = op.name
    · subst he
      rw [opens_taken (by rwa [hseat, isDirectory_congr h.directory])]
      rfl
    · rw [opens_elsewhere (helsewhere name hname he)]
      rfl

end Sockets
end Rendezvous.Exit
