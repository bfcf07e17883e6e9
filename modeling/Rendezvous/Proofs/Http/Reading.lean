import Mathlib.Data.List.Infix
import Rendezvous.Proofs.Http.HeadText
import Rendezvous.Proofs.Http.Pieces

/-! What a handshake has read when it is settled. It reads no piece more than it needs, never holds
more than the limit and one piece, and passes on just what has come behind the head. -/

namespace Rendezvous.Http.Handshake

open HeadReader (Undecided greatestFieldCount feed_complete_iff)

variable {h : Handshake} {seen rest response : List UInt8} {pieces : List (List UInt8)}

def taken (h : Handshake) : List (List UInt8) → List (List UInt8)
  | [] => []
  | piece :: pieces =>
    piece :: match h.receive piece with
      | .waiting h => h.taken pieces
      | .done _ _ => []

lemma prefix_taken (h : Handshake) (pieces : List (List UInt8)) : h.taken pieces <+: pieces := by
  induction pieces generalizing h with
  | nil => exact List.prefix_rfl
  | cons piece pieces ih =>
    rw [taken]
    cases h.receive piece with
    | waiting h => exact (List.prefix_cons_inj piece).mpr (ih h)
    | done r response => exact (List.prefix_cons_inj piece).mpr List.nil_prefix

lemma run_taken (h : Handshake) (pieces : List (List UInt8)) :
    h.run (h.taken pieces) = h.run pieces := by
  induction pieces generalizing h with
  | nil => rfl
  | cons piece pieces ih =>
    rw [taken, Handshake.run, Handshake.run]
    cases h.receive piece with
    | waiting h => exact ih h
    | done r response => rfl

lemma taken_cons_waiting {h' : Handshake} {piece : List UInt8} (hw : h.receive piece = .waiting h') :
    h.taken (piece :: pieces) = piece :: h'.taken pieces := by
  rw [taken, hw]

lemma Reads.taken_cons_settled (hr : h.Reads seen) {piece : List UInt8}
    (hs : Settled (seen ++ piece)) : h.taken (piece :: pieces) = [piece] := by
  obtain ⟨r, response, hj⟩ := exists_judge (seen ++ piece)
  rw [taken, hr.receive_settled hs, hj]

lemma Reads.run_taken (hr : h.Reads seen) (hb : ∀ p ∈ pieces, p.length ≤ pieceSize) :
    (h.taken pieces = pieces ∧ ∃ h', h.run pieces = .waiting h' ∧ h'.Reads (seen ++ pieces.flatten)) ∨
    (h.run pieces = judge (seen ++ (h.taken pieces).flatten) ∧
      (seen ++ (h.taken pieces).flatten).length ≤ greatestHeadSize + pieceSize) := by
  induction pieces generalizing h seen with
  | nil => exact .inl ⟨rfl, h, rfl, by simpa using hr⟩
  | cons piece pieces ih =>
    by_cases hs : Settled (seen ++ piece)
    · obtain ⟨r, response, hj⟩ := exists_judge (seen ++ piece)
      have hpiece := hb piece List.mem_cons_self
      have hseen := hr.length_le
      refine .inr ⟨?_, ?_⟩
      · rw [Handshake.run, hr.taken_cons_settled hs, List.flatten_singleton,
          hr.receive_settled hs, hj]
      · rw [hr.taken_cons_settled hs, List.flatten_singleton, List.length_append]
        omega
    · obtain ⟨h', hw, hr'⟩ := hr.receive_waiting hs
      rw [Handshake.run, hw, taken_cons_waiting hw, List.flatten_cons, List.flatten_cons,
        ← List.append_assoc, ← List.append_assoc]
      rcases ih hr' fun p hp => hb p (List.mem_cons_of_mem piece hp) with ⟨ht, hx⟩ | hj
      · exact .inl ⟨congrArg (piece :: ·) ht, hx⟩
      · exact .inr hj

lemma Reads.not_settled_taken (hr : h.Reads seen) {before : List (List UInt8)} {piece : List UInt8}
    (hp : before ++ [piece] <+: h.taken pieces) : ¬ Settled (seen ++ before.flatten) := by
  induction before generalizing h seen pieces with
  | nil => simpa using hr.not_settled
  | cons first before ih =>
    cases pieces with
    | nil => simp [taken] at hp
    | cons p pieces =>
      obtain rfl : first = p := by
        have hhead := hp.trans (prefix_taken h (p :: pieces))
        simpa using (List.cons_prefix_cons.mp hhead).1
      by_cases hs : Settled (seen ++ first)
      · rw [hr.taken_cons_settled hs] at hp
        simpa using hp.length_le
      · obtain ⟨h', hw, hr'⟩ := hr.receive_waiting hs
        rw [taken_cons_waiting hw, List.cons_append, List.prefix_cons_inj] at hp
        simpa using ih hr' hp

lemma length_le_flatten (hn : ∀ p ∈ pieces, p ≠ []) : pieces.length ≤ pieces.flatten.length := by
  induction pieces with
  | nil => exact Nat.zero_le _
  | cons p pieces ih =>
    have hp := List.length_pos_of_ne_nil (hn p List.mem_cons_self)
    have hs := ih fun q hq => hn q (List.mem_cons_of_mem p hq)
    rw [List.length_cons, List.flatten_cons, List.length_append]
    omega

lemma not_undecided_of_head {t : HeadText} (ht : t.lines.length ≤ greatestFieldCount)
    (hp : t.octets <+: seen) : ¬ Undecided seen := by
  obtain ⟨rest, rfl⟩ := hp
  rintro ⟨r, hr⟩
  rw [feed_complete_iff.mpr ⟨t, ht, rfl, rfl⟩] at hr
  cases hr

lemma exists_head_of_judge {all : List UInt8} (hj : judge all = .done (.webSocket rest) response) :
    ∃ t : HeadText, t.lines.length ≤ greatestFieldCount ∧ all = t.octets ++ rest := by
  unfold judge at hj
  cases hf : HeadReader.start.feed all with
  | more r =>
    rw [hf] at hj
    cases hj
  | invalid =>
    rw [hf] at hj
    cases hj
  | complete head tail =>
    rw [hf] at hj
    obtain ⟨t, ht, rfl, -⟩ := feed_complete_iff.mp hf
    have htail : tail = rest := by
      dsimp only [answer] at hj
      cases hx : head.reaction with
      | accept key =>
        simp only [hx, Progress.done.injEq, Result.webSocket.injEq] at hj
        exact hj.1
      | refuseVersion => simp [hx] at hj
      | page => simp [hx] at hj
    exact ⟨t, ht, by rw [htail]⟩

variable {stream : List UInt8}

lemma not_settled_of_taken {before : List (List UInt8)} {piece : List UInt8}
    (hp : before ++ [piece] <+: start.taken pieces) : ¬ Settled before.flatten := by
  simpa using reads_start.not_settled_taken hp

lemma Delivers.length_taken_le (hd : Delivers stream pieces) :
    (start.taken pieces).length ≤ greatestHeadSize + 1 := by
  rcases List.eq_nil_or_concat (start.taken pieces) with ht | ⟨before, piece, ht⟩
  · rw [ht]
    exact Nat.zero_le _
  · rw [List.concat_eq_append] at ht
    have hs : ¬ Settled before.flatten := not_settled_of_taken (by rw [ht])
    have hn : ∀ p ∈ before, p ≠ [] := fun p hp =>
      hd.nonempty p ((prefix_taken start pieces).subset (by rw [ht]; simp [hp]))
    have hle := length_le_flatten hn
    have hlimit : before.flatten.length ≤ greatestHeadSize := Nat.le_of_not_lt fun hl => hs (.inr hl)
    rw [ht, List.length_append, List.length_singleton]
    omega

lemma Delivers.run_taken (hd : Delivers stream pieces) :
    (start.taken pieces = pieces ∧ ∃ h, start.run pieces = .waiting h ∧ h.Reads stream) ∨
    (start.run pieces = judge (start.taken pieces).flatten ∧
      (start.taken pieces).flatten.length ≤ greatestHeadSize + pieceSize) := by
  simpa [hd.flatten_eq] using reads_start.run_taken hd.bounded

lemma Delivers.length_flatten_taken_le (hd : Delivers stream pieces) :
    (start.taken pieces).flatten.length ≤ greatestHeadSize + pieceSize := by
  rcases hd.run_taken with ⟨ht, h, -, hr⟩ | ⟨-, hl⟩
  · rw [ht, hd.flatten_eq]
    exact hr.length_le.trans (Nat.le_add_right _ _)
  · exact hl

lemma Delivers.run_ends (hd : Delivers stream pieces) (hl : greatestHeadSize < stream.length) :
    (start.run pieces).ending?.isSome := by
  rcases hd.run_taken with ⟨-, h, -, hr⟩ | ⟨hj, -⟩
  · exact absurd hr.length_le (by omega)
  · obtain ⟨r, response, he⟩ := exists_judge (start.taken pieces).flatten
    rw [hj, he]
    rfl

lemma Delivers.exists_head (hd : Delivers stream pieces)
    (hw : start.run pieces = .done (.webSocket rest) response) :
    ∃ t : HeadText, t.lines.length ≤ greatestFieldCount ∧
      (start.taken pieces).flatten = t.octets ++ rest ∧
      stream = t.octets ++ (rest ++ (pieces.drop (start.taken pieces).length).flatten) := by
  rcases hd.run_taken with ⟨-, h, hn, -⟩ | ⟨hj, -⟩
  · rw [hn] at hw
    cases hw
  · obtain ⟨t, ht, hall⟩ := exists_head_of_judge (hj.symm.trans hw)
    refine ⟨t, ht, hall, ?_⟩
    rw [← List.append_assoc, ← hall, ← List.flatten_append, ← List.prefix_append_drop
      (prefix_taken start pieces), hd.flatten_eq]

end Rendezvous.Http.Handshake
