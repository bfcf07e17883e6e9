import Mathlib.Data.List.Basic
import Mathlib.Order.Nat
import Rendezvous.Http.Handshake

/-! How a handshake ends, however the stream of the client is cut into pieces. The head is judged by
what has come with the piece that takes it over the limit, so a head that is settled just behind
the limit is taken or refused as the pieces fall. All others end in one way. -/

namespace Rendezvous.Http

namespace HeadReader

variable {head : Head} {bs cs rest : List UInt8}

def Undecided (bs : List UInt8) : Prop := ∃ r, start.feed bs = .more r

lemma Undecided.anti (h : Undecided cs) (hp : bs <+: cs) : Undecided bs := by
  obtain ⟨r, hr⟩ := h
  obtain ⟨ds, rfl⟩ := hp
  rw [feed_append] at hr
  cases hb : start.feed bs with
  | more r => exact ⟨r, hb⟩
  | complete head rest => simp [hb] at hr
  | invalid => simp [hb] at hr

lemma feed_complete_mono (h : start.feed bs = .complete head rest) (hp : bs <+: cs) :
    ∃ rest, start.feed cs = .complete head rest := by
  obtain ⟨ds, rfl⟩ := hp
  exact ⟨rest ++ ds, by rw [feed_append, h]⟩

lemma feed_invalid_mono (h : start.feed bs = .invalid) (hp : bs <+: cs) :
    start.feed cs = .invalid := by
  obtain ⟨ds, rfl⟩ := hp
  rw [feed_append, h]

end HeadReader

namespace Handshake

open HeadReader (Undecided)

inductive Ending where
  | webSocket
  | answered
  | versionRefused
  | failed (f : Fault)
deriving DecidableEq, Repr

def Result.ending : Result → Ending
  | .webSocket _ => .webSocket
  | .answered => .answered
  | .versionRefused => .versionRefused
  | .failed f => .failed f

def Progress.ending? : Progress → Option (Ending × List UInt8)
  | .waiting _ => none
  | .done r response => some (r.ending, response)

def serve (pieces : List (List UInt8)) : Progress :=
  match start.run pieces with
  | .waiting h => h.endOfStream
  | .done r response => .done r response

structure Delivers (stream : List UInt8) (pieces : List (List UInt8)) : Prop where
  flatten_eq : pieces.flatten = stream
  nonempty : ∀ p ∈ pieces, p ≠ []
  bounded : ∀ p ∈ pieces, p.length ≤ pieceSize

/-- The first octet over the limit leaves the head undecided, and all that can come with it does not. -/
def Straddles (stream : List UInt8) : Prop :=
  Undecided (stream.take (greatestHeadSize + 1)) ∧
    ¬ Undecided (stream.take (greatestHeadSize + pieceSize))

variable {h : Handshake} {seen all stream piece : List UInt8} {pieces : List (List UInt8)}

def judge (all : List UInt8) : Progress :=
  match HeadReader.start.feed all with
  | .invalid => fail .invalidHead
  | .complete head rest => answer head rest
  | .more _ => fail .tooLarge

def Settled (all : List UInt8) : Prop := ¬ Undecided all ∨ greatestHeadSize < all.length

def reached : Reaction → Ending
  | .accept _ => .webSocket
  | .refuseVersion => .versionRefused
  | .page => .answered

lemma exists_answer (head : Head) (rest : List UInt8) : ∃ r,
    answer head rest = .done r (Text.encode head.reaction.text) ∧ r.ending = reached head.reaction := by
  unfold answer
  cases head.reaction with
  | accept key => exact ⟨_, rfl, rfl⟩
  | refuseVersion => exact ⟨_, rfl, rfl⟩
  | page => exact ⟨_, rfl, rfl⟩

lemma answer_ending (head : Head) (rest : List UInt8) : (answer head rest).ending? =
    some (reached head.reaction, Text.encode head.reaction.text) := by
  obtain ⟨r, hr, he⟩ := exists_answer head rest
  rw [hr, Progress.ending?, he]

lemma exists_judge (all : List UInt8) : ∃ r response, judge all = .done r response := by
  unfold judge
  cases HeadReader.start.feed all with
  | more r => exact ⟨_, _, rfl⟩
  | complete head rest =>
    obtain ⟨r, hr, -⟩ := exists_answer head rest
    exact ⟨r, _, hr⟩
  | invalid => exact ⟨_, _, rfl⟩

lemma judge_of_undecided (h : Undecided all) : judge all = fail .tooLarge := by
  obtain ⟨r, hr⟩ := h
  rw [judge, hr]

lemma judge_ending_mono (hp : all <+: stream) (h : ¬ Undecided all) :
    (judge all).ending? = (judge stream).ending? := by
  unfold judge
  cases ha : HeadReader.start.feed all with
  | more r => exact absurd ⟨r, ha⟩ h
  | complete head rest =>
    obtain ⟨more, hs⟩ := HeadReader.feed_complete_mono ha hp
    rw [hs]
    exact (answer_ending head rest).trans (answer_ending head more).symm
  | invalid => rw [HeadReader.feed_invalid_mono ha hp]

lemma judge_ending_ne (h : ¬ Undecided all) : (judge all).ending? ≠ (fail .tooLarge).ending? := by
  unfold judge
  cases ha : HeadReader.start.feed all with
  | more r => exact absurd ⟨r, ha⟩ h
  | complete head rest =>
    dsimp only
    rw [answer_ending]
    cases head.reaction <;> simp [reached, Progress.ending?, Result.ending, fail]
  | invalid => simp [Progress.ending?, Result.ending, fail]

structure Reads (h : Handshake) (seen : List UInt8) : Prop where
  feed_eq : HeadReader.start.feed seen = .more h.reader
  size_eq : h.size = seen.length
  length_le : seen.length ≤ greatestHeadSize

lemma reads_start : start.Reads [] := ⟨rfl, rfl, Nat.zero_le _⟩

lemma Reads.undecided (hr : h.Reads seen) : Undecided seen := ⟨h.reader, hr.feed_eq⟩

lemma Reads.not_settled (hr : h.Reads seen) : ¬ Settled seen := by
  rintro (hn | hn)
  · exact hn hr.undecided
  · exact absurd hr.length_le (by omega)

lemma Reads.feed_append (hr : h.Reads seen) (piece : List UInt8) :
    h.reader.feed piece = HeadReader.start.feed (seen ++ piece) := by
  rw [HeadReader.feed_append, hr.feed_eq]

lemma Reads.receive_settled (hr : h.Reads seen) (hs : Settled (seen ++ piece)) :
    h.receive piece = judge (seen ++ piece) := by
  have hfeed := hr.feed_append piece
  unfold receive judge
  rw [← hfeed]
  cases hp : h.reader.feed piece with
  | invalid => rfl
  | complete head rest => rfl
  | more r =>
    have hlong : greatestHeadSize < h.size + piece.length := by
      rcases hs with hn | hn
      · exact absurd ⟨r, hfeed ▸ hp⟩ hn
      · rw [hr.size_eq, ← List.length_append]
        exact hn
    exact if_pos hlong

lemma Reads.receive_waiting (hr : h.Reads seen) (hs : ¬ Settled (seen ++ piece)) :
    ∃ h', h.receive piece = .waiting h' ∧ h'.Reads (seen ++ piece) := by
  obtain ⟨r, hfeed⟩ : Undecided (seen ++ piece) := by_contra fun hn => hs (Or.inl hn)
  have hlength : (seen ++ piece).length ≤ greatestHeadSize :=
    Nat.le_of_not_lt fun hn => hs (Or.inr hn)
  have hsize : h.size + piece.length = (seen ++ piece).length := by
    rw [hr.size_eq, List.length_append]
  refine ⟨⟨r, h.size + piece.length⟩, ?_, hfeed, hsize, hlength⟩
  unfold receive
  rw [hr.feed_append, hfeed, hsize]
  exact if_neg (by omega)

lemma Reads.run (hr : h.Reads seen) (hb : ∀ p ∈ pieces, p.length ≤ pieceSize) :
    (∃ h', h.run pieces = .waiting h' ∧ h'.Reads (seen ++ pieces.flatten)) ∨
    ∃ all, all <+: seen ++ pieces.flatten ∧ all.length ≤ greatestHeadSize + pieceSize ∧
      Settled all ∧ h.run pieces = judge all := by
  induction pieces generalizing h seen with
  | nil => exact Or.inl ⟨h, rfl, by simpa using hr⟩
  | cons piece pieces ih =>
    rw [List.flatten_cons, ← List.append_assoc]
    by_cases hs : Settled (seen ++ piece)
    · refine Or.inr ⟨seen ++ piece, List.prefix_append _ _, ?_, hs, ?_⟩
      · have hpiece := hb piece List.mem_cons_self
        have hseen := hr.length_le
        rw [List.length_append]
        omega
      · obtain ⟨r, response, hj⟩ := exists_judge (seen ++ piece)
        rw [Handshake.run, hr.receive_settled hs, hj]
    · obtain ⟨h', hw, hr'⟩ := hr.receive_waiting hs
      rw [Handshake.run, hw]
      exact ih hr' fun p hp => hb p (List.mem_cons_of_mem _ hp)

lemma Settled.mono (hs : Settled all) (hp : all <+: stream) : Settled stream := by
  rcases hs with hn | hn
  · exact Or.inl fun hu => hn (hu.anti hp)
  · exact Or.inr (hn.trans_le hp.length_le)

lemma Delivers.serve_eq (hd : Delivers stream pieces) :
    (¬ Settled stream ∧ serve pieces = fail .truncated) ∨
    ∃ all, all <+: stream ∧ all.length ≤ greatestHeadSize + pieceSize ∧ Settled all ∧
      serve pieces = judge all := by
  have hrun := reads_start.run hd.bounded
  rw [List.nil_append, hd.flatten_eq] at hrun
  rcases hrun with ⟨h, hw, hr⟩ | ⟨all, hp, hl, hs, hj⟩
  · refine Or.inl ⟨hr.not_settled, ?_⟩
    rw [serve, hw]
    rfl
  · refine Or.inr ⟨all, hp, hl, hs, ?_⟩
    obtain ⟨r, response, he⟩ := exists_judge all
    rw [serve, hj, he]

lemma judge_ending_eq (hn : ¬ Straddles stream) (hp : all <+: stream)
    (hl : all.length ≤ greatestHeadSize + pieceSize) (hs : Settled all) :
    (judge all).ending? = (judge (stream.take (greatestHeadSize + pieceSize))).ending? := by
  have hall : all <+: stream.take (greatestHeadSize + pieceSize) :=
    List.prefix_take_iff.mpr ⟨hp, hl⟩
  by_cases hu : Undecided (stream.take (greatestHeadSize + pieceSize))
  · rw [judge_of_undecided hu, judge_of_undecided (hu.anti hall)]
  · have hover : ¬ Undecided (stream.take (greatestHeadSize + 1)) := fun h => hn ⟨h, hu⟩
    refine judge_ending_mono hall ?_
    rcases hs with hs | hs
    · exact hs
    · have htake : stream.take (greatestHeadSize + 1) <+: all :=
        List.prefix_of_prefix_length_le (List.take_prefix _ _) hp (by rw [List.length_take]; omega)
      exact fun h => hover (h.anti htake)

lemma Delivers.ending_eq {others : List (List UInt8)} (hn : ¬ Straddles stream)
    (hd : Delivers stream pieces) (ho : Delivers stream others) :
    (serve pieces).ending? = (serve others).ending? := by
  rcases hd.serve_eq with ⟨hw, he⟩ | ⟨all, hp, hl, hs, he⟩ <;>
    rcases ho.serve_eq with ⟨hw', he'⟩ | ⟨all', hp', hl', hs', he'⟩
  · rw [he, he']
  · exact absurd (hs'.mono hp') hw
  · exact absurd (hs.mono hp) hw'
  · rw [he, he', judge_ending_eq hn hp hl hs, judge_ending_eq hn hp' hl' hs']

lemma run_append {h' : Handshake} {others : List (List UInt8)} (hw : h.run pieces = .waiting h') :
    h.run (pieces ++ others) = h'.run others := by
  induction pieces generalizing h with
  | nil =>
    obtain rfl := Progress.waiting.inj hw
    rfl
  | cons piece pieces ih =>
    rw [List.cons_append, Handshake.run]
    rw [Handshake.run] at hw
    cases hp : h.receive piece with
    | waiting g =>
      rw [hp] at hw
      exact ih hw
    | done r response =>
      rw [hp] at hw
      exact absurd hw (by simp)

def octetwise (bs : List UInt8) : List (List UInt8) := bs.map fun b => [b]

lemma delivers_octetwise (bs : List UInt8) : Delivers bs (octetwise bs) where
  flatten_eq := by rw [octetwise, ← List.flatMap_def, List.flatMap_singleton']
  nonempty := by simp [octetwise]
  bounded := by simp [octetwise, pieceSize]

def cutBehindLimit (size : Nat) (stream : List UInt8) : List (List UInt8) :=
  octetwise (stream.take greatestHeadSize) ++
    (stream.drop greatestHeadSize).take size :: octetwise (stream.drop (greatestHeadSize + size))

variable {size : Nat}

lemma mem_cutBehindLimit {p : List UInt8} (h : p ∈ cutBehindLimit size stream) :
    p ∈ octetwise (stream.take greatestHeadSize) ∨ p = (stream.drop greatestHeadSize).take size ∨
      p ∈ octetwise (stream.drop (greatestHeadSize + size)) := by
  rcases List.mem_append.mp h with h | h
  · exact Or.inl h
  · exact Or.inr (List.mem_cons.mp h)

lemma delivers_cutBehindLimit (hl : greatestHeadSize < stream.length) (hs : 0 < size)
    (hb : size ≤ pieceSize) : Delivers stream (cutBehindLimit size stream) where
  flatten_eq := by
    rw [cutBehindLimit, List.flatten_append, List.flatten_cons, (delivers_octetwise _).flatten_eq,
      (delivers_octetwise _).flatten_eq, ← List.append_assoc, ← List.take_add,
      List.take_append_drop]
  nonempty := by
    intro p hp
    rcases mem_cutBehindLimit hp with hp | rfl | hp
    · exact (delivers_octetwise _).nonempty p hp
    · apply List.ne_nil_of_length_pos
      rw [List.length_take, List.length_drop]
      omega
    · exact (delivers_octetwise _).nonempty p hp
  bounded := by
    intro p hp
    rcases mem_cutBehindLimit hp with hp | rfl | hp
    · exact (delivers_octetwise _).bounded p hp
    · exact (List.length_take_le _ _).trans hb
    · exact (delivers_octetwise _).bounded p hp

lemma serve_cutBehindLimit (hu : ¬ Settled (stream.take greatestHeadSize))
    (hs : Settled (stream.take (greatestHeadSize + size))) :
    serve (cutBehindLimit size stream) = judge (stream.take (greatestHeadSize + size)) := by
  have hdelivers := delivers_octetwise (stream.take greatestHeadSize)
  have hrun := reads_start.run hdelivers.bounded
  rw [List.nil_append, hdelivers.flatten_eq] at hrun
  rcases hrun with ⟨h, hw, hr⟩ | ⟨all, hp, -, ha, -⟩
  · rw [List.take_add] at hs ⊢
    obtain ⟨r, response, hj⟩ := exists_judge
      (stream.take greatestHeadSize ++ (stream.drop greatestHeadSize).take size)
    rw [serve, cutBehindLimit, run_append hw, Handshake.run, hr.receive_settled hs, hj]
  · exact absurd (ha.mono hp) hu

lemma exists_endings_ne (h : Straddles stream) : ∃ pieces others,
    Delivers stream pieces ∧ Delivers stream others ∧
    (serve pieces).ending? ≠ (serve others).ending? := by
  have hlength : greatestHeadSize + 1 < stream.length := by
    by_contra hn
    have hone : stream.take (greatestHeadSize + 1) = stream := List.take_of_length_le (by omega)
    have hall : stream.take (greatestHeadSize + pieceSize) = stream :=
      List.take_of_length_le (by simp only [pieceSize]; omega)
    have hu := h.1
    rw [hone] at hu
    exact h.2 (hall.symm ▸ hu)
  have hu : ¬ Settled (stream.take greatestHeadSize) := by
    rintro (hn | hn)
    · exact hn (h.1.anti (List.take_prefix_take_left (by omega)))
    · exact absurd (List.length_take_le greatestHeadSize stream) (by omega)
  have hone : Settled (stream.take (greatestHeadSize + 1)) := by
    refine Or.inr ?_
    rw [List.length_take]
    omega
  -- Cut behind the first octet over the limit, the head is refused for its size.
  refine ⟨cutBehindLimit pieceSize stream, cutBehindLimit 1 stream,
    delivers_cutBehindLimit (by omega) (by decide) (by omega),
    delivers_cutBehindLimit (by omega) (by decide) (by decide), ?_⟩
  rw [serve_cutBehindLimit hu (Or.inl h.2), serve_cutBehindLimit hu hone, judge_of_undecided h.1]
  exact judge_ending_ne h.2

lemma isSome_serve (pieces : List (List UInt8)) : (serve pieces).ending?.isSome := by
  unfold serve
  cases start.run pieces with
  | waiting h => rfl
  | done r response => rfl

theorem endings_agree_iff (stream : List UInt8) :
    (∀ pieces, (serve pieces).ending?.isSome) ∧
    ((∀ pieces others, Delivers stream pieces → Delivers stream others →
      (serve pieces).ending? = (serve others).ending?) ↔ ¬ Straddles stream) := by
  refine ⟨isSome_serve, fun hall hs => ?_, fun hn pieces others hp ho => hp.ending_eq hn ho⟩
  obtain ⟨pieces, others, hp, ho, hne⟩ := exists_endings_ne hs
  exact hne (hall pieces others hp ho)

def lead : List UInt8 := Text.encode "GET / HTTP/1.1\r\nX: a"

def pageRequest (n : Nat) : List UInt8 := lead ++ (List.replicate n 97 ++ [cr, lf, cr, lf])

variable {n : Nat}

lemma feed_replicate {r : HeadReader} {name run bs : List UInt8} (hp : r.place = .value name run) :
    r.feed (List.replicate n 97 ++ bs) =
      HeadReader.feed { r with place := .value name (List.replicate n 97 ++ run) } bs := by
  induction n generalizing r run with
  | zero => simp [← hp]
  | succ n ih =>
    have hstep : r.step 97 = .more { r with place := .value name (97 :: run) } := by
      rw [HeadReader.step, hp]
      rfl
    rw [List.replicate_succ, List.cons_append, HeadReader.feed, hstep]
    dsimp only
    rw [ih rfl, ← List.replicate_succ, List.replicate_succ']
    simp

lemma feed_lead (bs : List UInt8) : HeadReader.start.feed (lead ++ (List.replicate n 97 ++ bs)) =
    HeadReader.feed ⟨.value [88] (List.replicate n 97 ++ [97]), [71, 69, 84], [47], []⟩ bs := by
  have hlead : HeadReader.start.feed lead = .more ⟨.value [88] [97], [71, 69, 84], [47], []⟩ := by
    decide +kernel
  rw [HeadReader.feed_append, hlead]
  exact feed_replicate rfl

lemma length_lead : lead.length = 20 := by decide +kernel

lemma length_pageRequest : (pageRequest n).length = n + 24 := by
  simp only [pageRequest, List.length_append, length_lead, List.length_replicate, List.length_cons,
    List.length_nil]
  omega

lemma undecided_take_pageRequest {k : Nat} (hk : k ≤ n + 20) : Undecided ((pageRequest n).take k) := by
  have hwhole : Undecided ((pageRequest n).take (n + 20)) := by
    have htake : (pageRequest n).take (n + 20) = lead ++ (List.replicate n 97 ++ []) := by
      rw [pageRequest, ← List.append_assoc, List.append_nil]
      exact List.take_left' (by rw [List.length_append, length_lead, List.length_replicate]; omega)
    rw [htake]
    exact ⟨_, feed_lead []⟩
  exact hwhole.anti (List.take_prefix_take_left hk)

lemma reaction_page (value : List UInt8) :
    (⟨[71, 69, 84], [47], [⟨[88], value⟩]⟩ : Head).reaction = .page := by
  have hname : [lower 88] ≠ Text.encode "upgrade" := by decide +kernel
  have hvalues : (⟨[71, 69, 84], [47], [⟨[88], value⟩]⟩ : Head).values "upgrade" = [] :=
    List.filterMap_eq_nil_iff.mpr (by simp [Field.hasName, hname])
  simp [Head.reaction, Head.namesWebSocket, hvalues]

lemma judge_pageRequest : (judge (pageRequest n)).ending? =
    some (.answered, Text.encode Reaction.page.text) := by
  have hfeed : HeadReader.start.feed (pageRequest n) = .complete
      ⟨[71, 69, 84], [47], [⟨[88], (List.replicate n (97 : UInt8) ++ [97]).reverse⟩]⟩ [] := by
    rw [pageRequest, feed_lead]
    rfl
  rw [judge, hfeed]
  dsimp only
  rw [answer_ending, reaction_page]
  rfl

theorem pageRequest_endings :
    Delivers (pageRequest 8176) (cutBehindLimit 1 (pageRequest 8176)) ∧
    Delivers (pageRequest 8176) (cutBehindLimit pieceSize (pageRequest 8176)) ∧
    (serve (cutBehindLimit 1 (pageRequest 8176))).ending? = some (.failed .tooLarge, []) ∧
    (serve (cutBehindLimit pieceSize (pageRequest 8176))).ending? =
      some (.answered, Text.encode Reaction.page.text) := by
  have hl : greatestHeadSize < (pageRequest 8176).length := by
    rw [length_pageRequest]
    decide
  have hu : ¬ Settled ((pageRequest 8176).take greatestHeadSize) := by
    rintro (hn | hn)
    · exact hn (undecided_take_pageRequest (by decide))
    · exact absurd (List.length_take_le greatestHeadSize (pageRequest 8176)) (by omega)
  have hover : ∀ size, 0 < size → Settled ((pageRequest 8176).take (greatestHeadSize + size)) := by
    intro size hs
    refine Or.inr ?_
    rw [List.length_take]
    omega
  have hall : (pageRequest 8176).take (greatestHeadSize + pieceSize) = pageRequest 8176 := by
    apply List.take_of_length_le
    rw [length_pageRequest]
    decide
  refine ⟨delivers_cutBehindLimit hl (by decide) (by decide),
    delivers_cutBehindLimit hl (by decide) (by decide), ?_, ?_⟩
  · rw [serve_cutBehindLimit hu (hover 1 (by decide)),
      judge_of_undecided (undecided_take_pageRequest (by decide))]
    rfl
  · rw [serve_cutBehindLimit hu (hover pieceSize (by decide)), hall]
    exact judge_pageRequest

end Handshake
end Rendezvous.Http
