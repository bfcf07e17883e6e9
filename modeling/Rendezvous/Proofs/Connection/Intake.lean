import Rendezvous.Proofs.Connection.Service
import Rendezvous.Proofs.Http.Reading

/-! What a connection takes out of its pipe before it is upgraded, and that all of it behind the head
comes into the WebSocket stream, in its order. -/

namespace Rendezvous.Connection

open Http (HeadText greatestHeadSize pieceSize)
open Http.Handshake (Delivers Settled)
open Http.HeadReader (greatestFieldCount)

lemma Task.isShaking_of_step {t : Task} {now : Time} {i : Incident}
    (h : (t.step now i).1.isShaking = true) : t.isShaking = true ∧ (t.step now i).2 = [] := by
  cases hk : t.isShaking with
  | true =>
    cases ho : t.opens i with
    | true =>
      rw [step_of_opens ho] at h
      cases h
    | false => exact ⟨rfl, (step_of_isShaking hk ho now).1⟩
  | false =>
    cases hs : t.serves with
    | true =>
      rcases step_of_serves hs now i with ⟨hs', -⟩ | ⟨-, hu⟩
      · rw [not_isShaking_of_serves hs'] at h
        cases h
      · rw [hu] at h
        cases h
    | false =>
      rw [step_of_hasEnded (hasEnded_of_not hk hs), hk] at h
      cases h

lemma Task.isShaking_of_run {t : Task} {is : List (Time × Incident)}
    (h : (t.run is).1.isShaking = true) : t.isShaking = true := by
  induction is generalizing t with
  | nil => exact h
  | cons x is ih => exact (isShaking_of_step (ih h)).1

lemma Task.exists_phase {t : Task} (h : t.isShaking = true) : ∃ d, t.phase = .handshake d := by
  unfold isShaking at h
  split at h
  · exact ⟨_, by assumption⟩
  · cases h

namespace Endpoint

variable {e : Endpoint} {w : Surroundings} {r : Endpoint × Surroundings} {seen : List UInt8}

def removed (e after : Endpoint) : List UInt8 :=
  e.input.octets.take (e.input.octets.length - after.input.octets.length)

def drawn (e : Endpoint) : List Moment → List UInt8
  | [] => []
  | m :: rest =>
    let e := { e with input := m.input, output := m.output }
    match e.attend m.surroundings m.chance with
    | none => e.drawn rest
    | some (after, _) => e.removed after ++ after.drawn rest

lemma removed_of_octets_eq {after : Endpoint} (h : after.input.octets = e.input.octets) :
    e.removed after = [] := by
  simp [removed, h]

lemma foldl_perform_keeps (fs : List Effect) (s : Endpoint × Surroundings) :
    let r := fs.foldl (fun s f => perform s.1 s.2 f) s
    r.1.input = s.1.input ∧ (fs.any Effect.isFrame = false → r.1.stage = s.1.stage) := by
  induction fs generalizing s with
  | nil => exact ⟨rfl, fun _ => rfl⟩
  | cons f fs ih =>
    obtain ⟨hi, hs⟩ := ih (perform s.1 s.2 f)
    cases f with
    | enqueue a => exact ⟨hi, fun h => hs (by simpa [Effect.isFrame] using h)⟩
    | write m d => exact ⟨hi, fun h => by simp [Effect.isFrame] at h⟩
    | finish d => exact ⟨hi, fun h => by simp [Effect.isFrame] at h⟩

lemma octets_release (e : Endpoint) (w : Surroundings) :
    (e.release w).1.input.octets = e.input.octets := by
  unfold release
  split <;> rfl

lemma stage_release (e : Endpoint) (w : Surroundings) : (e.release w).1.stage = e.stage := by
  unfold release
  split <;> rfl

lemma octets_meet (e : Endpoint) (w : Surroundings) (i : Incident) :
    (e.meet w i).1.input.octets = e.input.octets :=
  (octets_release _ _).trans
    (congrArg Pipe.octets (foldl_perform_keeps (e.task.step w.now i).2 _).1)

lemma stage_meet {i : Incident} (h : (e.task.step w.now i).2.any Effect.isFrame = false) :
    (e.meet w i).1.stage = e.stage :=
  (stage_release _ _).trans ((foldl_perform_keeps (e.task.step w.now i).2 _).2 h)

/-- As long as the handshake lasts: what has been taken out of the pipe is what the reader has seen,
and then the head with what has come behind it. -/
def Drew (e : Endpoint) (seen : List UInt8) : Prop :=
  e.task.isShaking = true → match e.stage with
    | .head h => h.Reads seen
    | .response x _ => ∀ rest, x = .webSocket rest →
      ∃ t : HeadText, t.lines.length ≤ greatestFieldCount ∧ seen = t.octets ++ rest
    | .frames _ => True

lemma Drew.meet (h : e.Drew seen) (w : Surroundings) (i : Incident) :
    (e.meet w i).1.Drew (seen ++ e.removed (e.meet w i).1) := by
  intro hk
  rw [task_meet] at hk
  obtain ⟨hb, hn⟩ := Task.isShaking_of_step hk
  rw [removed_of_octets_eq (octets_meet e w i), List.append_nil, stage_meet (by rw [hn]; rfl)]
  exact h hb

lemma drew_turnedAway (e : Endpoint) (w : Surroundings) {d : Time} (hp : e.task.phase = .handshake d) :
    (e.meet w .turnedAway).1.Drew seen := by
  intro hk
  rw [task_meet] at hk
  simp [Task.step, hp, Task.isShaking] at hk

lemma octets_take_read (p : Pipe) (n : Nat) :
    p.octets.take (p.octets.length - (p.read n).2.octets.length) = (p.read n).1 := by
  simp only [Pipe.read, List.length_drop, List.take_eq_take_iff]
  omega

lemma drew_proceed {h : Http.Handshake} {piece : List UInt8} {input : Pipe} {d : Time}
    (hp : e.task.phase = .handshake d) (hreads : h.Reads seen)
    (hr : e.proceed w input (h.receive piece) = some r) : r.1.Drew (seen ++ piece) := by
  by_cases hs : Settled (seen ++ piece)
  · rw [hreads.receive_settled hs] at hr
    obtain ⟨x, response, hj⟩ := Http.Handshake.exists_judge (seen ++ piece)
    have hhead : ∀ rest, x = .webSocket rest → ∃ t : HeadText,
        t.lines.length ≤ greatestFieldCount ∧ seen ++ piece = t.octets ++ rest := by
      rintro rest rfl
      exact Http.Handshake.exists_head_of_judge hj
    rw [hj] at hr
    cases x with
    | failed f =>
      cases hr
      exact drew_turnedAway _ w hp
    | webSocket rest =>
      cases hr
      exact fun _ => hhead
    | answered =>
      cases hr
      exact fun _ => hhead
    | versionRefused =>
      cases hr
      exact fun _ => hhead
  · obtain ⟨h', hw, hr'⟩ := hreads.receive_waiting hs
    rw [hw] at hr
    cases hr
    exact fun _ => hr'

lemma octets_proceed {input : Pipe} {p : Http.Handshake.Progress} (hr : e.proceed w input p = some r) :
    r.1.input.octets = input.octets := by
  unfold proceed at hr
  split at hr <;> cases hr
  · rfl
  · exact octets_meet _ w .turnedAway
  · rfl

lemma Drew.readHead {h : Http.Handshake} {d : Time} (hd : e.Drew seen)
    (hp : e.task.phase = .handshake d) (hg : e.stage = .head h) (hr : e.readHead w h = some r) :
    r.1.Drew (seen ++ e.removed r.1) := by
  have hreads : h.Reads seen := by
    have hstage := hd (by simp [Task.isShaking, hp])
    rwa [hg] at hstage
  rw [readHead_eq] at hr
  split at hr
  · have hpiece : e.removed r.1 = (e.input.read pieceSize).1 := by
      rw [removed, octets_proceed hr, octets_take_read]
    rw [hpiece]
    exact drew_proceed hp hreads hr
  · split at hr
    · cases hr
      exact drew_turnedAway _ w hp
    · cases hr

lemma Drew.writeResponse {x : Http.Handshake.Result} {octets : List UInt8} {d : Time}
    (hd : e.Drew seen) (hp : e.task.phase = .handshake d) (hg : e.stage = .response x octets)
    (hr : e.writeResponse w x octets = some r) : r.1.Drew (seen ++ e.removed r.1) := by
  have hup : ∀ rest,
      (({ e with stage := .frames rest }).meet w .upgraded).1.Drew (seen ++ e.removed r.1) := by
    intro rest hk
    rw [task_meet] at hk
    simp [Task.step, hp, Task.isShaking, Task.subscribe] at hk
  unfold Endpoint.writeResponse at hr
  split at hr
  · split at hr <;> cases hr
    · exact hup _
    · exact drew_turnedAway e w hp
  · split at hr
    · cases hr
      exact drew_turnedAway e w hp
    · split at hr
      · cases hr
      · have hstage := hd (by simp [Task.isShaking, hp])
        rw [hg] at hstage
        have hr' := Option.some.inj hr
        have hinput : r.1.input = e.input := congrArg (·.1.input) hr'.symm
        obtain ⟨left, hnext⟩ : ∃ left, r.1.stage = .response x left :=
          ⟨_, congrArg (·.1.stage) hr'.symm⟩
        rw [removed_of_octets_eq (congrArg Pipe.octets hinput), List.append_nil]
        intro _
        rw [hnext]
        exact hstage

lemma Drew.attend {c : Chance} (hd : e.Drew seen) (hs : e.Staged) (hr : e.attend w c = some r) :
    r.1.Drew (seen ++ e.removed r.1) := by
  intro hk
  -- a task whose handshake goes on was in it before
  have hb : e.task.isShaking = true := by
    obtain ⟨is, ht, -⟩ := follows_attend hs hr
    rw [ht] at hk
    exact Task.isShaking_of_run hk
  obtain ⟨d, hp⟩ := Task.exists_phase hb
  refine (?_ : r.1.Drew (seen ++ e.removed r.1)) hk
  cases c with
  | stream =>
    cases hg : e.stage with
    | head h =>
      have hr' : e.readHead w h = some r := by simpa [Endpoint.attend, exchange, hp, hg] using hr
      exact hd.readHead hp hg hr'
    | response x octets =>
      have hr' : e.writeResponse w x octets = some r := by
        simpa [Endpoint.attend, exchange, hp, hg] using hr
      exact hd.writeResponse hp hg hr'
    | frames s => simp [Endpoint.attend, exchange, hp, hg] at hr
  | shutdown => simp [Endpoint.attend, hp] at hr
  | order => simp [Endpoint.attend, hp] at hr
  | clock =>
    have hr' : e.expire w = some r := hr
    unfold expire at hr'
    dsimp only at hr'
    split at hr'
    · cases hr'
    · cases hr'
      exact hd.meet w .tick
  | fault =>
    obtain rfl : e.meet w .turnedAway = r := by simpa [Endpoint.attend, falter, hp] using hr
    exact hd.meet w .turnedAway

lemma Drew.serve (hd : e.Drew seen) (hs : e.Staged) (ms : List Moment) :
    (e.serve ms).endpoint.Drew (seen ++ e.drawn ms) ∧ (e.serve ms).endpoint.Staged := by
  induction ms generalizing e seen with
  | nil => exact ⟨by simpa [Endpoint.serve, drawn] using hd, hs⟩
  | cons m ms ih =>
    let e₁ : Endpoint := { e with input := m.input, output := m.output }
    have hd₁ : e₁.Drew seen := hd
    have hs₁ : e₁.Staged := hs
    cases hr : e₁.attend m.surroundings m.chance with
    | none =>
      have hn : e.drawn (m :: ms) = e₁.drawn ms := by simp only [drawn, e₁, hr]
      have he : e.serve (m :: ms) = e₁.serve ms := by simp only [Endpoint.serve, e₁, hr]
      rw [hn, he]
      exact ih hd₁ hs₁
    | some r =>
      have hn : e.drawn (m :: ms) = e₁.removed r.1 ++ r.1.drawn ms := by
        simp only [drawn, e₁, hr]
      have he : (e.serve (m :: ms)).endpoint = (r.1.serve ms).endpoint := by
        simp only [Endpoint.serve, e₁, hr]
      rw [hn, he, ← List.append_assoc]
      exact ih (hd₁.attend hs₁ hr) ((follows_attend hs₁ hr).staged hs₁)

lemma Drew.upgrade {c : Chance} (hd : e.Drew seen) (hu : e.upgrades c = true) (w : Surroundings) :
    ∃ (t : HeadText) (s : WebSocket.Session) (r : Endpoint × Surroundings),
      e.attend w c = some r ∧ r.1.stage = .frames s ∧
      t.lines.length ≤ greatestFieldCount ∧ seen = t.octets ++ s.inbox := by
  unfold upgrades at hu
  split at hu
  · split at hu
    · rename_i d rest octets hp hg
      have hstage := hd (by simp [Task.isShaking, hp])
      rw [hg] at hstage
      obtain ⟨t, ht, hseen⟩ := hstage rest rfl
      let e₁ : Endpoint := { e with stage := .frames (.start rest) }
      refine ⟨t, .start rest, e₁.meet w .upgraded, ?_, ?_, ht, hseen⟩
      · simp only [Endpoint.attend, exchange, hp, hg, Endpoint.writeResponse, hu]
        rfl
      · have hnone : (e₁.task.step w.now .upgraded).2.any Effect.isFrame = false := by
          simp [e₁, Task.step, hp, Task.subscribe, Effect.isFrame]
        exact stage_meet hnone
    · cases hu
  · cases hu

end Endpoint

structure ReadsExactly (stream : List UInt8) (pieces : List (List UInt8)) : Prop where
  front : Http.Handshake.start.taken pieces <+: pieces
  sameEnd : Http.Handshake.start.run (Http.Handshake.start.taken pieces) =
    Http.Handshake.start.run pieces
  pieceCount : (Http.Handshake.start.taken pieces).length ≤ greatestHeadSize + 1
  ends : (Http.Handshake.serve pieces).ending?.isSome
  limited : greatestHeadSize < stream.length → (Http.Handshake.start.run pieces).ending?.isSome
  octetCount : (Http.Handshake.start.taken pieces).flatten.length ≤ greatestHeadSize + pieceSize
  headOpen : ∀ before piece, before ++ [piece] <+: Http.Handshake.start.taken pieces →
    ∀ t : HeadText, t.lines.length ≤ greatestFieldCount → ¬ t.octets <+: before.flatten
  passedOn : ∀ rest response,
    Http.Handshake.start.run pieces = .done (.webSocket rest) response →
      ∃ t : HeadText, t.lines.length ≤ greatestFieldCount ∧
        (Http.Handshake.start.taken pieces).flatten = t.octets ++ rest ∧
        stream = t.octets ++
          (rest ++ (pieces.drop (Http.Handshake.start.taken pieces).length).flatten)

/-- A connection served turn by turn, with anything in between, begins its WebSocket stream with all
that it has taken out of its pipe behind the head. -/
def PassesOn (l : Listener) (h : Handle) (pongTime handshakeTime : Time) (capacity : Nat)
    (w : Surroundings) (ms : List Moment) (m : Moment) : Prop :=
  let e₀ := (Endpoint.start (.start l h pongTime handshakeTime w.now w.shutdown) capacity w).1
  let e := { (e₀.serve ms).endpoint with input := m.input, output := m.output }
  e.upgrades m.chance = true →
    ∃ (t : HeadText) (s : WebSocket.Session) (r : Endpoint × Surroundings),
      e.attend m.surroundings m.chance = some r ∧ r.1.stage = .frames s ∧
      t.lines.length ≤ greatestFieldCount ∧ e₀.drawn ms = t.octets ++ s.inbox

lemma readsExactly {stream : List UInt8} {pieces : List (List UInt8)}
    (hd : Delivers stream pieces) : ReadsExactly stream pieces where
  front := Http.Handshake.prefix_taken _ _
  sameEnd := Http.Handshake.run_taken _ _
  pieceCount := hd.length_taken_le
  ends := Http.Handshake.isSome_serve pieces
  limited := hd.run_ends
  octetCount := hd.length_flatten_taken_le
  headOpen _ _ hp _ ht hhead := Http.Handshake.not_settled_of_taken hp
    (.inl (Http.Handshake.not_undecided_of_head ht hhead))
  passedOn _ _ := hd.exists_head

lemma passesOn (l : Listener) (h : Handle) (pongTime handshakeTime : Time) (capacity : Nat)
    (w : Surroundings) (ms : List Moment) (m : Moment) :
    PassesOn l h pongTime handshakeTime capacity w ms m := by
  unfold PassesOn
  intro e₀ e hu
  have hstage : e₀.stage = .head .start := Endpoint.stage_release _ _
  have hdrew : e₀.Drew [] := by
    intro _
    rw [hstage]
    exact Http.Handshake.reads_start
  have hstaged : e₀.Staged := by
    intro hv
    rw [Endpoint.task_start] at hv
    exact absurd hv (by simp [Task.not_serves_start])
  have hserved : (e₀.serve ms).endpoint.Drew (e₀.drawn ms) := by
    simpa using (hdrew.serve hstaged ms).1
  have hfound : e.Drew (e₀.drawn ms) := hserved
  exact hfound.upgrade hu m.surroundings

theorem head_read_exactly {stream : List UInt8} {pieces : List (List UInt8)}
    (hd : Delivers stream pieces) :
    ReadsExactly stream pieces ∧
    ∀ (l : Listener) (h : Handle) (pongTime handshakeTime : Time) (capacity : Nat)
      (w : Surroundings) (ms : List Moment) (m : Moment),
      PassesOn l h pongTime handshakeTime capacity w ms m :=
  ⟨readsExactly hd, passesOn⟩

theorem head_read_exactly_frameBehind :
    let pieces := [Http.upgradeText.octets ++ [129, 1], [65]]
    Delivers (Http.upgradeText.octets ++ [129, 1, 65]) pieces ∧
    ∃ (t : HeadText) (response : List UInt8),
      Http.Handshake.start.run pieces = .done (.webSocket [129, 1]) response ∧
      (Http.Handshake.start.taken pieces).flatten = t.octets ++ [129, 1] ∧
      Http.upgradeText.octets ++ [129, 1, 65] = t.octets ++ ([129, 1] ++
        (pieces.drop (Http.Handshake.start.taken pieces).length).flatten) := by
  intro pieces
  have hlength : Http.upgradeText.octets.length = 143 := by decide +kernel
  have hd : Delivers (Http.upgradeText.octets ++ [129, 1, 65]) pieces :=
    ⟨by simp [pieces], by simp [pieces], by simp [pieces, hlength, pieceSize]⟩
  have hfeed : Http.HeadReader.start.feed (Http.upgradeText.octets ++ [129, 1]) =
      .complete Http.upgradeText.head [129, 1] :=
    Http.HeadReader.feed_complete_iff.mpr ⟨Http.upgradeText, by decide, rfl, rfl⟩
  have hreaction : Http.upgradeText.head.reaction = .accept "dGhlIHNhbXBsZSBub25jZQ==" := by
    decide +kernel
  have hrun : Http.Handshake.start.run pieces = .done (.webSocket [129, 1])
      (Text.encode (Http.Reaction.accept "dGhlIHNhbXBsZSBub25jZQ==").text) := by
    simp [pieces, Http.Handshake.run, Http.Handshake.receive, Http.Handshake.start, hfeed,
      Http.Handshake.answer, hreaction]
  obtain ⟨t, -, htaken, hstream⟩ := (head_read_exactly hd).1.passedOn _ _ hrun
  exact ⟨hd, t, _, hrun, htaken, hstream⟩

end Rendezvous.Connection
