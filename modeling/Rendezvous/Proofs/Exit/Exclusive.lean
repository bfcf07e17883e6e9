import Rendezvous.Proofs.Exit.Unheard

namespace Rendezvous.Exit.Sockets

variable {s : Sockets} {ops before after : List Operation} {op : Operation} {name : String}
  {z : Socket}

/-- Of the channels opened under a path, one has not been closed. -/
def isOpen (s : Sockets) (ops : List Operation) (path : String) : Bool :=
  s.closed ops path < s.opened ops path

def answer (s : Sockets) (before : List Operation) (op : Operation) : Result :=
  ((s.run before).2.perform op).1

namespace Ledger

lemma reaches (h : s.Ledger ops) (hu : s.Usable name) : (s.run ops).2.Reaches name (s.seat name) := by
  have hreaches := (hu.congr h.directory).reaches
  rwa [seat_congr h.directory] at hreaches

lemma seated (h : s.Ledger ops) (hu : s.Usable name) (hfree : s.isDirectory (s.seat name) = false) :
    (s.run ops).2.Seated name (s.seat name) :=
  ⟨h.reaches hu, (isDirectory_congr h.directory).trans hfree⟩

lemma owned (h : s.Ledger ops) (hu : s.Usable name) : (s.run ops).2.Owned name (s.seat name) := by
  have howned := h.sound.owned name (hu.congr h.directory)
  rwa [seat_congr h.directory] at howned

lemma free_of_file? (h : s.Ledger ops) (hfile : (s.run ops).2.file? (s.seat name) = some z) :
    s.isDirectory (s.seat name) = false := by
  rw [Bool.eq_false_iff]
  intro htaken
  rw [h.sound.vacant _ ((isDirectory_congr h.directory).trans htaken)] at hfile
  exact absurd hfile (by simp)

lemma effect_eq (h : s.Ledger ops) (op : Operation) : (s.run ops).2.effect op =
    if s.isDirectory (s.seat op.name) then (op.barred, (s.run ops).2.file? (s.seat op.name))
    else op.turn (s.path op.name) ((s.run ops).2.file? (s.seat op.name)) := by
  rw [effect, isDirectory_congr h.directory, seat_congr h.directory, path_congr h.directory]

lemma answer_eq (h : s.Ledger ops) (op : Operation) (hu : s.Usable op.name) :
    s.answer ops op = ((s.run ops).2.effect op).1 :=
  (h.sound.perform (hu.congr h.directory)).1

lemma isOpen_iff (h : s.Ledger ops) (hu : s.Usable name) : s.isOpen ops (s.path name) = true ↔
    ∃ ch, (s.run ops).2.file? (s.seat name) = some (.listening name ch) := by
  rw [isOpen, h.balanced name hu, decide_eq_true_eq, Nat.lt_add_right_iff_pos, listening_pos_iff]
  constructor
  · rintro ⟨opened, ch, hfile⟩
    obtain rfl := h.owned hu opened ch hfile
    exact ⟨ch, hfile⟩
  · rintro ⟨ch, hfile⟩
    exact ⟨name, ch, hfile⟩

lemma channel?_eq (h : s.Ledger ops) (hu : s.Usable name) : (s.run ops).2.channel? name =
    match (s.run ops).2.file? (s.seat name) with
    | some (.listening _ ch) => some ch
    | _ => none := by
  by_cases htaken : s.isDirectory (s.seat name)
  · have htaken' := (isDirectory_congr h.directory).trans htaken
    have hvacant := h.sound.vacant _ htaken'
    have hbarred : (s.run ops).2.Barred name (s.seat name) := ⟨h.reaches hu, htaken', hvacant⟩
    rw [hbarred.channel?_eq, hvacant]
  · exact (h.seated hu (Bool.eq_false_iff.mpr htaken)).channel?_eq (h.owned hu)

lemma listen_open (h : s.Ledger ops) (hu : s.Usable name) (hopen : s.isOpen ops (s.path name) = true) :
    s.answer ops (.listen name) = .listened (.error (.inUse (s.path name))) ∧
      (s.run ops).2.Alike ((s.run ops).2.perform (.listen name)).2 ∧
        ∃ ch, (s.run ops).2.channel? name = some ch ∧
          (s.run (ops ++ [.listen name])).2.channel? name = some (ch.receive []) := by
  obtain ⟨ch, hfile⟩ := (h.isOpen_iff hu).mp hopen
  have heffect : (s.run ops).2.effect (.listen name) =
      (.listened (.error (.inUse (s.path name))), some (.listening name (ch.receive []))) := by
    rw [h.effect_eq, Operation.name, h.free_of_file? hfile, hfile]
    rfl
  have huse : (s.run ops).2.Usable (Operation.listen name).name := hu.congr h.directory
  have hturns := (h.sound.perform huse).2
  rw [heffect, Operation.name, seat_congr h.directory] at hturns
  refine ⟨by rw [h.answer_eq (.listen name) hu, heffect], ⟨hturns.directory, fun p => ?_⟩,
    ch, ?_, ?_⟩
  · by_cases he : p = s.seat name
    · rw [he, hturns.here, hfile]
      -- the call gives no reason, and is not heard
      simp [Socket.heard, Channel.receive, Channel.heard, Call.reason?]
    · rw [hturns.elsewhere p he]
  · rw [h.channel?_eq hu, hfile]
  · have hnext : s.Ledger (ops ++ [.listen name]) := h.concat hu
    rw [hnext.channel?_eq hu, run_concat, hturns.here]

lemma free (h : s.Ledger ops) (hu : s.Usable name)
    (hbefore : 0 < s.closed ops (s.path name) ∨ (s.run ops).2.socket? name = some .orphaned) :
    s.isDirectory (s.seat name) = false := by
  rcases hbefore with hclosed | horphaned
  · rw [Bool.eq_false_iff]
    intro htaken
    have hnever := h.never name hu htaken
    rw [h.balanced name hu] at hnever
    omega
  · unfold socket? at horphaned
    rw [(h.reaches hu).locate] at horphaned
    exact h.free_of_file? horphaned

end Ledger

end Rendezvous.Exit.Sockets
