import Rendezvous.Connection.Endpoint
import Rendezvous.Proofs.Connection.Account

/-!
A connection that is served turn by turn. Which of the possible things it attends to is open, and
so is what has become of its pipes and its surroundings since the turn before.
-/

namespace Rendezvous.Connection

inductive Chance where
  | stream
  | shutdown
  | order
  | clock
  | fault

/-- What a connection attends to in one turn, and what it finds then. -/
structure Moment where
  chance : Chance
  surroundings : Surroundings
  input : Pipe
  output : Pipe

def Effect.isFrame : Effect → Bool
  | .enqueue _ => false
  | _ => true

lemma Task.isFrame_step_of_not_serves {t : Task} (h : t.serves = false) (now : Time)
    (i : Incident) : (t.step now i).2.any Effect.isFrame = false := by
  cases hk : t.isShaking with
  | false => rw [step_of_hasEnded (hasEnded_of_not hk h)]; rfl
  | true =>
    cases ho : t.opens i with
    | true => rw [step_of_opens ho]; rfl
    | false => rw [(step_of_isShaking hk ho now).1]; rfl

namespace Endpoint

def isUpgraded (e : Endpoint) : Bool :=
  match e.stage with
  | .frames _ => true
  | _ => false

def exchange (e : Endpoint) (w : Surroundings) : Move :=
  match e.task.phase, e.stage with
  | .handshake _, .head h => e.readHead w h
  | .handshake _, .response r octets => e.writeResponse w r octets
  | .idle, .frames s => e.readIn w s
  | .writing _, .frames s => e.writeOut w s
  | .parting _, .frames s => e.writeOut w s
  | .finishing _, .frames s => e.writeOut w s
  | _, _ => none

def falter (e : Endpoint) (w : Surroundings) : Move :=
  match e.task.phase with
  | .handshake _ => some (e.meet w .turnedAway)
  | .idle => some (e.meet w .broken)
  | .ended => none
  | _ => some (e.meet w .writeFailed)

def attend (e : Endpoint) (w : Surroundings) : Chance → Move
  | .stream => e.exchange w
  | .shutdown => if e.task.phase = .idle ∧ w.shutdown then some (e.meet w .shutdown) else none
  | .order => if e.task.phase = .idle then e.takeOrder w else none
  | .clock => e.expire w
  | .fault => e.falter w

def next? (e : Endpoint) : Option WebSocket.Message :=
  match e.task.phase, e.stage with
  | .idle, .frames s =>
    if s.answer.isSome || e.cannotFlush s || e.canFlush s then none
    else
      match s.read with
      | (.message m, _) => some m
      | _ => none
  | _, _ => none

def receives? (e : Endpoint) : Chance → Option WebSocket.Message
  | .stream => e.next?
  | _ => none

def upgrades (e : Endpoint) : Chance → Bool
  | .stream =>
    match e.task.phase, e.stage with
    | .handshake _, .response (.webSocket _) octets => octets.isEmpty
    | _, _ => false
  | _ => false

end Endpoint

structure Service where
  endpoint : Endpoint
  upgraded : Bool := false
  received : List WebSocket.Message := []
  actions : List Action := []

def Endpoint.serve (e : Endpoint) : List Moment → Service
  | [] => { endpoint := e }
  | m :: rest =>
    let e := { e with input := m.input, output := m.output }
    match e.attend m.surroundings m.chance with
    | none => e.serve rest
    | some (after, w) =>
      let s := after.serve rest
      { s with
        upgraded := e.upgrades m.chance || s.upgraded
        received := (e.receives? m.chance).toList ++ s.received
        actions := w.queue.actions.drop m.surroundings.queue.size ++ s.actions }

namespace Endpoint

def Staged (e : Endpoint) : Prop := e.task.serves = true → e.isUpgraded = true

lemma foldl_perform (fs : List Effect) (s : Endpoint × Surroundings) :
    let r := fs.foldl (fun s f => perform s.1 s.2 f) s
    r.1.task = s.1.task ∧ r.2.queue.actions = s.2.queue.actions ++ Connection.actions fs ∧
      r.1.isUpgraded = (s.1.isUpgraded || fs.any Effect.isFrame) := by
  induction fs generalizing s with
  | nil => simp
  | cons f fs ih =>
    obtain ⟨ht, hq, hu⟩ := ih (perform s.1 s.2 f)
    simp only [List.foldl_cons, ht, hq, hu]
    cases f <;> simp [perform, Effect.action?, Effect.isFrame, isUpgraded, ActionQueue.enqueue]

@[simp] lemma task_release (e : Endpoint) (w : Surroundings) :
    (e.release w).1.task = e.task := by
  unfold release
  split <;> rfl

@[simp] lemma isUpgraded_release (e : Endpoint) (w : Surroundings) :
    (e.release w).1.isUpgraded = e.isUpgraded := by
  unfold release
  split <;> rfl

@[simp] lemma queue_release (e : Endpoint) (w : Surroundings) :
    (e.release w).2.queue = w.queue := by
  unfold release
  split <;> rfl

lemma task_meet (e : Endpoint) (w : Surroundings) (i : Incident) :
    (e.meet w i).1.task = (e.task.step w.now i).1 :=
  (task_release _ _).trans (foldl_perform (e.task.step w.now i).2 _).1

lemma queue_meet (e : Endpoint) (w : Surroundings) (i : Incident) :
    (e.meet w i).2.queue.actions =
      w.queue.actions ++ Connection.actions (e.task.step w.now i).2 :=
  (congrArg ActionQueue.actions (queue_release _ _)).trans
    (foldl_perform (e.task.step w.now i).2 _).2.1

lemma isUpgraded_meet (e : Endpoint) (w : Surroundings) (i : Incident) :
    (e.meet w i).1.isUpgraded =
      (e.isUpgraded || (e.task.step w.now i).2.any Effect.isFrame) :=
  (isUpgraded_release _ _).trans (foldl_perform (e.task.step w.now i).2 _).2.2

/-- What a turn leads to is what the task makes of the incidents of that turn. -/
def Follows (e : Endpoint) (w : Surroundings) (m : Option WebSocket.Message) (u : Bool)
    (r : Endpoint × Surroundings) : Prop :=
  ∃ is, r.1.task = (e.task.run is).1 ∧
    r.2.queue.actions = w.queue.actions ++ Connection.actions (e.task.run is).2 ∧
    e.task.heard is = m.toList ∧ e.task.opened is = u ∧
    r.1.isUpgraded = (e.isUpgraded || u)

lemma Follows.quiet {e : Endpoint} {w : Surroundings} {r : Endpoint × Surroundings}
    (ht : r.1.task = e.task) (hq : r.2.queue = w.queue) (hu : r.1.isUpgraded = e.isUpgraded) :
    e.Follows w none false r :=
  ⟨[], ht, by simp [hq, Task.run], rfl, rfl, by simp [hu]⟩

lemma Follows.meet {e e₁ : Endpoint} {w w₁ : Surroundings} {i : Incident} (hs : e.Staged)
    (ht : e₁.task = e.task) (hq : w₁.queue = w.queue)
    (hu : e₁.isUpgraded = (e.isUpgraded || e.task.opens i)) :
    e.Follows w (e.task.hears? i) (e.task.opens i) (e₁.meet w₁ i) := by
  refine ⟨[(w₁.now, i)], ?_, ?_, ?_, ?_, ?_⟩
  · rw [task_meet, ht]
    rfl
  · rw [queue_meet, ht, hq]
    simp [Task.run]
  · simp [Task.heard]
  · simp [Task.opened]
  · rw [isUpgraded_meet, hu, ht]
    cases hv : e.task.serves with
    | true => simp [hs hv]
    | false => simp [Task.isFrame_step_of_not_serves hv]

lemma Follows.meet_later {e e₁ : Endpoint} {w w₁ : Surroundings} {i : Incident} (hs : e.Staged)
    (ht : e₁.task = e.task) (hq : w₁.queue = w.queue) (hu : e₁.isUpgraded = e.isUpgraded)
    (ho : e.task.opens i = false) : e.Follows w (e.task.hears? i) false (e₁.meet w₁ i) := by
  rw [← ho]
  exact .meet hs ht hq (by rw [ho, hu, Bool.or_false])

variable {e : Endpoint} {w : Surroundings} {r : Endpoint × Surroundings}

def proceed (e : Endpoint) (w : Surroundings) (input : Pipe) : Http.Handshake.Progress → Move
  | .waiting h => some ({ e with stage := .head h, input := input }, w)
  | .done (.failed _) _ => some ({ e with input := input }.meet w .turnedAway)
  | .done x response => some ({ e with stage := .response x response, input := input }, w)

lemma readHead_eq (e : Endpoint) (w : Surroundings) (h : Http.Handshake) :
    e.readHead w h =
      if !e.input.octets.isEmpty then
        e.proceed w (e.input.read Http.pieceSize).2 (h.receive (e.input.read Http.pieceSize).1)
      else if e.input.finished then e.proceed w e.input h.endOfStream
      else none := rfl

lemma follows_proceed {h : Http.Handshake} {input : Pipe} {p : Http.Handshake.Progress}
    (hs : e.Staged) (hg : e.stage = .head h) (hr : e.proceed w input p = some r) :
    e.Follows w none false r := by
  unfold proceed at hr
  split at hr
  · cases hr
    exact .quiet rfl rfl (by simp [isUpgraded, hg])
  · cases hr
    exact .meet_later (i := .turnedAway) hs rfl rfl rfl rfl
  · cases hr
    exact .quiet rfl rfl (by simp [isUpgraded, hg])

lemma follows_readHead {h : Http.Handshake} (hs : e.Staged) (hg : e.stage = .head h)
    (hr : e.readHead w h = some r) : e.Follows w none false r := by
  rw [readHead_eq] at hr
  split at hr
  · exact follows_proceed hs hg hr
  · split at hr
    · exact follows_proceed hs hg hr
    · cases hr

lemma follows_writeResponse {x : Http.Handshake.Result} {octets : List UInt8} {d : Time}
    (hs : e.Staged) (hp : e.task.phase = .handshake d) (hg : e.stage = .response x octets)
    (hr : e.writeResponse w x octets = some r) : e.Follows w none (e.upgrades .stream) r := by
  have ha : e.Follows w none false (e.meet w .turnedAway) :=
    .meet_later (i := .turnedAway) hs rfl rfl rfl rfl
  unfold writeResponse at hr
  split at hr
  · rename_i ho
    split at hr
    · cases hr
      have hu : e.upgrades .stream = e.task.opens .upgraded := by
        simp [upgrades, Task.opens, Task.isShaking, hp, hg, ho]
      rw [hu]
      exact .meet (i := .upgraded) hs rfl rfl
        (by simp [Task.opens, Task.isShaking, hp, isUpgraded])
    · have hu : e.upgrades .stream = false := by
        cases x <;> simp_all [upgrades]
      cases hr
      rw [hu]
      exact ha
  · rename_i ho
    have hu : e.upgrades .stream = false := by
      cases x <;> simp_all [upgrades]
    rw [hu]
    split at hr
    · cases hr
      exact ha
    · split at hr
      · cases hr
      · cases hr
        exact .quiet rfl rfl (by simp [isUpgraded, hg])

lemma follows_writeOut {s : WebSocket.Session} (hs : e.Staged) (hg : e.stage = .frames s)
    (hr : e.writeOut w s = some r) : e.Follows w none false r := by
  unfold writeOut at hr
  split at hr
  · cases hr
    exact .meet_later (i := .written) hs rfl rfl rfl rfl
  · split at hr
    · cases hr
      exact .meet_later (i := .writeFailed) hs rfl rfl rfl rfl
    · split at hr
      · cases hr
        exact .quiet rfl rfl (by simp [flush, isUpgraded, hg])
      · cases hr

lemma follows_readIn {s : WebSocket.Session} (hs : e.Staged) (hp : e.task.phase = .idle)
    (hg : e.stage = .frames s) (hr : e.readIn w s = some r) : e.Follows w e.next? false r := by
  unfold readIn at hr
  by_cases ha : s.answer.isSome = true
  · have hn : e.next? = none := by simp [next?, hp, hg, ha]
    rw [if_pos ha] at hr
    cases hr
    rw [hn]
    exact .quiet rfl rfl (by simp [keepSession, isUpgraded, hg])
  rw [if_neg ha] at hr
  by_cases hc : e.cannotFlush s = true
  · have hn : e.next? = none := by simp [next?, hp, hg, hc]
    rw [if_pos hc] at hr
    cases hr
    rw [hn]
    exact .meet_later (i := .broken) hs rfl rfl rfl rfl
  rw [if_neg hc] at hr
  by_cases hf : e.canFlush s = true
  · have hn : e.next? = none := by simp [next?, hp, hg, hf]
    rw [if_pos hf] at hr
    cases hr
    rw [hn]
    exact .quiet rfl rfl (by simp [flush, isUpgraded, hg])
  rw [if_neg hf] at hr
  obtain ⟨x, s', hx⟩ : ∃ x s', s.read = (x, s') := ⟨_, _, rfl⟩
  rw [hx] at hr
  cases x with
  | message m =>
    have hn : e.next? = e.task.hears? (.message m) := by
      simp [next?, Task.hears?, hp, hg, ha, hc, hf, hx]
    cases hr
    rw [hn]
    exact .meet_later hs rfl rfl (by simp [keepSession, isUpgraded, hg]) rfl
  | failed =>
    have hn : e.next? = none := by simp [next?, hp, hg, hx]
    cases hr
    rw [hn]
    exact .meet_later (i := .broken) hs rfl rfl (by simp [keepSession, isUpgraded, hg]) rfl
  | waiting =>
    have hn : e.next? = none := by simp [next?, hp, hg, hx]
    rw [hn]
    dsimp only at hr
    split at hr
    · cases hr
      exact .quiet rfl rfl (by simp [keepSession, isUpgraded, hg])
    · split at hr
      · cases hr
        exact .meet_later (i := .broken) hs rfl rfl (by simp [keepSession, isUpgraded, hg]) rfl
      · cases hr

lemma follows_takeOrder (hs : e.Staged) (hr : e.takeOrder w = some r) : e.Follows w none false r := by
  unfold takeOrder at hr
  dsimp only at hr
  split at hr
  · cases hr
    exact .meet_later (i := .order _) hs rfl rfl rfl rfl
  · split at hr
    · cases hr
    · cases hr
      exact .meet_later (i := .released) hs rfl rfl rfl rfl

lemma follows_expire (hs : e.Staged) (hr : e.expire w = some r) : e.Follows w none false r := by
  unfold expire at hr
  dsimp only at hr
  split at hr
  · cases hr
  · cases hr
    exact .meet_later (i := .tick) hs rfl rfl rfl rfl

lemma follows_falter (hs : e.Staged) (hr : e.falter w = some r) : e.Follows w none false r := by
  unfold falter at hr
  split at hr
  · cases hr
    exact .meet_later (i := .turnedAway) hs rfl rfl rfl rfl
  · cases hr
    exact .meet_later (i := .broken) hs rfl rfl rfl rfl
  · cases hr
  · cases hr
    exact .meet_later (i := .writeFailed) hs rfl rfl rfl rfl

lemma follows_exchange (hs : e.Staged) (hr : e.exchange w = some r) :
    e.Follows w e.next? (e.upgrades .stream) r := by
  have hn (h : e.task.phase ≠ .idle) : e.next? = none := by
    unfold next?
    split <;> simp_all
  have hu (h : ∀ x octets, e.stage ≠ .response x octets) : e.upgrades .stream = false := by
    unfold upgrades
    split <;> simp_all
  unfold exchange at hr
  split at hr
  · rename_i hp hg
    rw [hn (by simp [hp]), hu (by simp [hg])]
    exact follows_readHead hs hg hr
  · rename_i hp hg
    rw [hn (by simp [hp])]
    exact follows_writeResponse hs hp hg hr
  · rename_i hp hg
    rw [hu (by simp [hg])]
    exact follows_readIn hs hp hg hr
  · rename_i hp hg
    rw [hn (by simp [hp]), hu (by simp [hg])]
    exact follows_writeOut hs hg hr
  · rename_i hp hg
    rw [hn (by simp [hp]), hu (by simp [hg])]
    exact follows_writeOut hs hg hr
  · rename_i hp hg
    rw [hn (by simp [hp]), hu (by simp [hg])]
    exact follows_writeOut hs hg hr
  · cases hr

lemma follows_attend {c : Chance} (hs : e.Staged) (hr : e.attend w c = some r) :
    e.Follows w (e.receives? c) (e.upgrades c) r := by
  cases c with
  | stream => exact follows_exchange hs hr
  | shutdown =>
    dsimp only [attend] at hr
    split at hr
    · cases hr
      exact .meet_later (i := .shutdown) hs rfl rfl rfl rfl
    · cases hr
  | order =>
    dsimp only [attend] at hr
    split at hr
    · exact follows_takeOrder hs hr
    · cases hr
  | clock => exact follows_expire hs hr
  | fault => exact follows_falter hs hr

lemma Follows.staged {m : Option WebSocket.Message} {u : Bool} (hs : e.Staged)
    (hf : e.Follows w m u r) : r.1.Staged := by
  obtain ⟨is, ht, -, -, ho, hu⟩ := hf
  intro hv
  rw [hu]
  rw [ht] at hv
  rcases Task.serves_of_run hv with hv | hv
  · simp [hs hv]
  · simp [← ho, hv]

lemma run_of_serve (hs : e.Staged) (ms : List Moment) :
    ∃ is, (e.serve ms).endpoint.task = (e.task.run is).1 ∧
      (e.serve ms).actions = Connection.actions (e.task.run is).2 ∧
      (e.serve ms).received = e.task.heard is ∧
      (e.serve ms).upgraded = e.task.opened is := by
  induction ms generalizing e with
  | nil => exact ⟨[], rfl, rfl, rfl, rfl⟩
  | cons m ms ih =>
    let e₁ : Endpoint := { e with input := m.input, output := m.output }
    have hs₁ : e₁.Staged := hs
    cases hr : e₁.attend m.surroundings m.chance with
    | none =>
      have he : e.serve (m :: ms) = e₁.serve ms := by simp only [serve, e₁, hr]
      rw [he]
      exact ih hs₁
    | some r =>
      -- The incidents of this turn come before all that the later turns lead to.
      have hf := follows_attend hs₁ hr
      obtain ⟨js, ht, ha, hh, ho⟩ := ih (hf.staged hs₁)
      obtain ⟨is, hft, hfq, hfh, hfo, -⟩ := hf
      have he : e.serve (m :: ms) =
          { r.1.serve ms with
            upgraded := e₁.upgrades m.chance || (r.1.serve ms).upgraded
            received := (e₁.receives? m.chance).toList ++ (r.1.serve ms).received
            actions := r.2.queue.actions.drop m.surroundings.queue.size ++
              (r.1.serve ms).actions } := by
        simp only [serve, e₁, hr]
      have hq : r.2.queue.actions.drop m.surroundings.queue.size =
          Connection.actions (e₁.task.run is).2 := by
        rw [hfq]
        exact List.drop_left
      rw [hft] at ht ha hh ho
      rw [he, hq, ha, hh, ho, ← hfh, ← hfo]
      refine ⟨is ++ js, ?_, ?_, ?_, ?_⟩
      · rw [Task.run_append]
        exact ht
      · rw [Task.run_append, actions_append]
      · rw [Task.heard_append]
      · rw [Task.opened_append]

lemma exists_attend_of_move (hr : e.move w = some r) : ∃ c, e.attend w c = some r := by
  rcases Option.or_eq_some_iff.mp hr with hr | ⟨-, hr⟩
  · unfold advance at hr
    split at hr
    · exact ⟨.stream, by simp_all [attend, exchange]⟩
    · exact ⟨.stream, by simp_all [attend, exchange]⟩
    · rename_i s hp hg
      unfold moveIdle at hr
      split at hr
      · exact ⟨.shutdown, by simp_all [attend]⟩
      · rcases Option.or_eq_some_iff.mp hr with hr | ⟨-, hr⟩
        · exact ⟨.order, by simp_all [attend]⟩
        · exact ⟨.stream, by simp_all [attend, exchange]⟩
    · exact ⟨.stream, by simp_all [attend, exchange]⟩
    · exact ⟨.stream, by simp_all [attend, exchange]⟩
    · exact ⟨.stream, by simp_all [attend, exchange]⟩
    · cases hr
  · exact ⟨.clock, hr⟩

lemma exists_serve_of_moves (n : Nat) (hs : e.Staged) :
    ∃ ms, (e.serve ms).endpoint = (e.moves n w).1 ∧
      (e.moves n w).2.queue.actions = w.queue.actions ++ (e.serve ms).actions := by
  induction n generalizing e w with
  | zero => exact ⟨[], rfl, (List.append_nil _).symm⟩
  | succ n ih =>
    cases hr : e.move w with
    | none => exact ⟨[], by simp [moves, hr, serve], by simp [moves, hr, serve]⟩
    | some r =>
      obtain ⟨c, hc⟩ := exists_attend_of_move hr
      have hf := follows_attend hs hc
      obtain ⟨ms, he, hq⟩ := ih (w := r.2) (hf.staged hs)
      obtain ⟨is, -, hfq, -⟩ := hf
      refine ⟨⟨c, w, e.input, e.output⟩ :: ms, ?_, ?_⟩
      · simpa [moves, hr, serve, hc] using he
      · simp [moves, hr, serve, hc, hq, hfq, ActionQueue.size]

@[simp] lemma task_start (t : Task) (capacity : Nat) (w : Surroundings) :
    (start t capacity w).1.task = t :=
  task_release _ _

end Endpoint

theorem tells_account (l : Listener) (h : Handle) (pongTime handshakeTime : Time)
    (w : Surroundings) :
    let t := Task.start l h pongTime handshakeTime w.now w.shutdown
    (∀ is, actions (t.run is).2 =
      if w.shutdown then [] else account l h (t.opened is) (t.run is).1.hasEnded (t.heard is)) ∧
    (∀ capacity ms,
      let s := (Endpoint.start t capacity w).1.serve ms
      s.actions = if w.shutdown then [] else
        account l h s.upgraded s.endpoint.task.hasEnded s.received) ∧
    ∀ capacity n later, ∃ ms,
      let e := (Endpoint.start t capacity w).1
      (e.serve ms).endpoint = (e.moves n later).1 ∧
        (e.moves n later).2.queue.actions = later.queue.actions ++ (e.serve ms).actions := by
  intro t
  have hs (capacity : Nat) : (Endpoint.start t capacity w).1.Staged := by
    intro hv
    rw [Endpoint.task_start] at hv
    exact absurd hv (by simp [t, Task.not_serves_start])
  refine ⟨Task.run_start l h pongTime handshakeTime w.now w.shutdown, fun capacity ms => ?_,
    fun capacity n later => Endpoint.exists_serve_of_moves n (hs capacity)⟩
  obtain ⟨is, ht, ha, hh, ho⟩ := Endpoint.run_of_serve (hs capacity) ms
  rw [Endpoint.task_start] at ht ha hh ho
  dsimp only
  rw [ha, ht, hh, ho]
  exact Task.run_start l h pongTime handshakeTime w.now w.shutdown is

def visit : List Moment :=
  let idle : Moment := ⟨.stream, { now := 20 }, { capacity := 1000 }, { capacity := 1000 }⟩
  let request := "GET / HTTP/1.1\r\nConnection: upgrade\r\nUpgrade: websocket\r\n" ++
    "Sec-WebSocket-Version: 13\r\nSec-WebSocket-Key: a\r\n\r\n"
  [{ idle with input := { capacity := 1000, octets := Text.encode request } }, idle, idle,
    { idle with input := { capacity := 1000, octets := [0x81, 0x81, 1, 2, 3, 4, 0x60] } }, idle,
    { idle with chance := .shutdown, surroundings := { now := 30, shutdown := true } },
    idle, idle, idle]

theorem tells_account_visit :
    let s := (Endpoint.start (.start .tls ⟨7, 3⟩ 15000 10000 0 false) 1000 {}).1.serve visit
    s.endpoint.task.hasEnded = true ∧
      s.actions = [.subscribe .tls ⟨7, 3⟩, .message 7 (.text "a"), .unsubscribe 7] := by
  obtain ⟨hended, hupgraded, hreceived⟩ :
      let s := (Endpoint.start (.start .tls ⟨7, 3⟩ 15000 10000 0 false) 1000 {}).1.serve visit
      s.endpoint.task.hasEnded = true ∧ s.upgraded = true ∧ s.received = [.text "a"] := by
    decide +kernel
  have htold := (tells_account .tls ⟨7, 3⟩ 15000 10000 {}).2.1 1000 visit
  dsimp only at htold
  rw [hended, hupgraded, hreceived] at htold
  exact ⟨hended, htold⟩

end Rendezvous.Connection
