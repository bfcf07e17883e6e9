import Rendezvous.Keepalive
import Rendezvous.Proofs.Connection.Pong
import Rendezvous.Proofs.Settings.Layering
import Rendezvous.Server

/-! Whether the clock can show all that a server with given settings waits for. Settings that are
taken keep each wait within the clock, but not its end. -/

namespace Rendezvous

namespace Connection

variable {t : Task} {T now d s : Time} {i : Incident} {f : Effect} {is : List (Time × Incident)}

namespace Task

lemma pingSince_le_step (h : ∀ s ∈ t.pingSince, s ≤ T) (hn : now ≤ T) :
    ∀ s ∈ (t.step now i).1.pingSince, s ≤ T := by
  cases t.turn now i with
  | order o hp hi hs =>
    rw [hs]
    cases o with
    | ping =>
      rintro s ⟨⟩
      cases hmark : t.pingSince with
      | none => exact hn
      | some s => exact h s hmark
    | text _ => exact h
    | binary _ => exact h
  | pong hp hi hs => simp [hs]
  | overdue hp hi ho hs => rwa [hs, part]
  | stuck d hp hi hd hs => rwa [hs, part]
  | shutdown hp hi hs => rwa [hs, part]
  | quiet hp hs => rwa [hs.pingSince_eq]

lemma deadline_of_step (h : ∀ s ∈ t.pingSince, s ≤ T) (hn : now ≤ T)
    (hc : closingTime ≤ t.pongTime) (hf : f ∈ (t.step now i).2) (hd : f.deadline? = some d) :
    d ≤ T + t.pongTime := by
  have hclose : now + closingTime ≤ T + t.pongTime := Nat.add_le_add hn hc
  cases f with
  | enqueue a => cases hd
  | finish d' =>
    obtain rfl := Option.some.inj hd
    rwa [finish_of_step hf]
  | write m d' =>
    obtain rfl := Option.some.inj hd
    rcases write_of_step hf with ⟨-, -, rfl⟩ | ⟨o, -, -, -, rfl⟩
    · exact hclose
    · rw [writeDeadline, pongTime_step]
      refine Nat.add_le_add_right ?_ _
      cases hmark : (t.step now i).1.pingSince with
      | none => exact hn
      | some s => exact pingSince_le_step h hn s hmark

lemma pongDeadline_le (h : ∀ s ∈ t.pingSince, s ≤ T) : ∀ d ∈ t.pongDeadline?, d ≤ T + t.pongTime := by
  intro d hd
  obtain ⟨s, hs, rfl⟩ := Option.map_eq_some_iff.mp hd
  exact Nat.add_le_add_right (h s hs) _

lemma deadlines_le (h : ∀ s ∈ t.pingSince, s ≤ T) (hc : closingTime ≤ t.pongTime)
    (his : ∀ x ∈ is, x.1 ≤ T) : ∀ d ∈ t.deadlines is, d ≤ T + t.pongTime := by
  induction is generalizing t with
  | nil =>
    intro d hd
    exact pongDeadline_le h d (Option.mem_toList.mp hd)
  | cons x is ih =>
    obtain ⟨now, i⟩ := x
    have hn : now ≤ T := his (now, i) List.mem_cons_self
    have hrest := @ih (t.step now i).1 (pingSince_le_step h hn) (by rwa [pongTime_step])
      fun y hy => his y (List.mem_cons_of_mem _ hy)
    rw [pongTime_step] at hrest
    intro d hd
    rcases List.mem_append.mp hd with hd | hd
    · rcases List.mem_append.mp hd with hd | hd
      · exact pongDeadline_le h d (Option.mem_toList.mp hd)
      · obtain ⟨f, hf, hfd⟩ := List.mem_filterMap.mp hd
        exact deadline_of_step h hn hc hf hfd
    · exact hrest d hd

lemma mem_deadlines (l : Listener) (h : Handle) (pongTime handshakeTime began T : Time) :
    T + pongTime ∈ (start l h pongTime handshakeTime began false).deadlines
      [(T, .upgraded), (T, .order (.text ""))] := by
  simp [deadlines, start, step, subscribe, stepIdle, write, notePing, writeDeadline, pongDeadline?,
    Effect.deadline?]

end Task

end Connection

namespace Keepalive

variable {interval : Clock.Seconds} {r : Registry} {n : Nat} {ws : List Wait} {p : Post}

lemma run_ne_overflow (h : ∀ w ∈ ws, w.start + interval ≤ Clock.last) (k : Nat) :
    (run interval r n ws p).1 ≠ .overflow k := by
  induction ws generalizing n p with
  | nil => simp [run]
  | cons w ws ih =>
    have hw : Clock.after? w.start interval = some (w.start + interval) :=
      Clock.after?_eq_some_iff.mpr ⟨rfl, h w List.mem_cons_self⟩
    rw [run, hw]
    dsimp only
    split
    · simp
    · exact ih fun w hw => h w (List.mem_cons_of_mem _ hw)

lemma run_overflow {start : Clock.Seconds} (h : Clock.last < start + interval) :
    (run interval r n [⟨start, false⟩] p).1 = .overflow n := by
  rw [run, Clock.after?_eq_none_iff.mpr h]

lemma run_iff {T : Clock.Seconds} : (∀ r n ws p k, (∀ w ∈ ws, w.start ≤ T) →
    (run interval r n ws p).1 ≠ .overflow k) ↔ T + interval ≤ Clock.last := by
  constructor
  · intro h
    by_contra hlate
    exact h .empty 0 [⟨T, false⟩] .empty 0 (by simp) (run_overflow (Nat.lt_of_not_le hlate))
  · intro h r n ws p k hws
    exact run_ne_overflow (fun w hw => (Nat.add_le_add_right (hws w hw) _).trans h) k

end Keepalive

namespace Settings

variable {s t : Settings} {d : Document} {load : String → Option String}
  {a : CommandLine.Arguments}

structure InRange (s : Settings) : Prop where
  pingInterval : 1 ≤ s.pingInterval ∧ s.pingInterval ≤ Clock.last
  pongTime : 1 ≤ s.pongTime ∧ s.pongTime ≤ Clock.last

lemma le_of_natural? {limit n : Nat} {toml : Toml.Document} {name k : String}
    (h : Document.natural? limit toml name k = some (some n)) : n ≤ limit := by
  unfold Document.natural? at h
  split at h
  · cases h
  · split at h
    · next hn =>
      cases h
      exact hn.2
    · cases h
  · cases h

lemma le_of_ofToml? {toml : Toml.Document} (h : Document.ofToml? toml = some d) :
    (∀ n ∈ d.pingInterval, n ≤ Clock.last) ∧ ∀ n ∈ d.pongTime, n ≤ Clock.last := by
  unfold Document.ofToml? at h
  split at h
  · iterate 10 obtain ⟨_, -, h⟩ := Option.bind_eq_some_iff.mp h
    obtain ⟨ping, hping, h⟩ := Option.bind_eq_some_iff.mp h
    obtain ⟨pong, hpong, h⟩ := Option.bind_eq_some_iff.mp h
    iterate 3 obtain ⟨_, -, h⟩ := Option.bind_eq_some_iff.mp h
    cases h
    refine ⟨fun n hn => ?_, fun n hn => ?_⟩
    · obtain rfl : ping = some n := hn
      exact le_of_natural? hping
    · obtain rfl : pong = some n := hn
      exact le_of_natural? hpong
  · cases h

lemma Chosen.inRange {given : Option Nat} {old new : Nat}
    (h : Chosen (fun n m => 0 < n ∧ m = n) given old new) (hg : ∀ n ∈ given, n ≤ Clock.last)
    (ho : 1 ≤ old ∧ old ≤ Clock.last) : 1 ≤ new ∧ new ≤ Clock.last := by
  cases given with
  | none =>
    obtain rfl : new = old := h
    exact ho
  | some n =>
    obtain ⟨hpos, rfl⟩ := h
    exact ⟨hpos, hg new rfl⟩

lemma inRange_of_applyArguments (h : standard.applyArguments a = .ok s) : s.InRange := by
  obtain ⟨l, i, c, -, -, -, rfl⟩ := applyArguments_ok_iff.mp h
  have hstandard : standard.InRange := ⟨by decide, by decide⟩
  exact ⟨hstandard.pingInterval, hstandard.pongTime⟩

lemma InRange.applyText {path : Option String} {text : String} (hs : s.InRange)
    (h : s.applyText path text = .ok t) : t.InRange := by
  unfold Settings.applyText at h
  split at h
  · cases h
  · next d hd =>
    obtain ⟨toml, -, htoml⟩ := Option.bind_eq_some_iff.mp hd
    obtain ⟨hping', hpong'⟩ := le_of_ofToml? htoml
    obtain ⟨x, ping, pong, i, l, f, c, -, hping, hpong, -, -, -, -, rfl⟩ :=
      applyDocument_ok_iff.mp h
    exact ⟨hping.inRange hping' hs.pingInterval, hpong.inRange hpong' hs.pongTime⟩

lemma inRange_of_resolve (h : resolve load a = .ok s) : s.InRange := by
  unfold resolve at h
  split at h
  · cases h
  · next s₀ hs₀ =>
    have hrange := inRange_of_applyArguments hs₀
    split at h
    · cases h
      exact hrange
    · split at h
      · cases h
      · exact hrange.applyText h

lemma deadlines_iff (h : 1 ≤ s.pongTime) (T : Connection.Time) :
    (∀ l handle handshakeTime began shutdown is, (∀ x ∈ is, x.1 ≤ T) →
      (Connection.Task.start l handle s.terms.pongTime handshakeTime began shutdown).IsShown is) ↔
    T / 1000 + s.pongTime ≤ Clock.last := by
  have hterms : s.terms.pongTime = s.pongTime * 1000 := rfl
  have hseconds : (T + s.pongTime * 1000) / 1000 = T / 1000 + s.pongTime :=
    Nat.add_mul_div_right T s.pongTime (by decide)
  rw [hterms, ← hseconds]
  constructor
  · -- an order taken at `T` is given the whole time
    intro hall
    exact hall .plain ⟨0, 0⟩ 0 0 false _ (by simp)
      _ (Connection.Task.mem_deadlines .plain ⟨0, 0⟩ (s.pongTime * 1000) 0 0 T)
  · intro hlast l handle handshakeTime began shutdown is his d hd
    have hclosing : Connection.closingTime ≤ s.pongTime * 1000 := Nat.le_mul_of_pos_left 1000 h
    have hle := Connection.Task.deadlines_le (fun s hs => by cases hs) hclosing his d hd
    exact (Nat.div_le_div_right hle).trans hlast

/-- Settings that are taken have times that the clock can show. Up to the moment `T` the pings go on
until the flag is raised, and a connection can tell how long to wait, just if the clock can also
show the ends of the waits that start at `T`. -/
theorem deadlines_shown_iff (h : resolve load a = .ok s) (T : Connection.Time) :
    s.InRange ∧
    ((∀ r n ws p k, (∀ w ∈ ws, w.start ≤ T / 1000) →
      (Keepalive.run s.pingInterval r n ws p).1 ≠ .overflow k) ↔
        T / 1000 + s.pingInterval ≤ Clock.last) ∧
    ((∀ l handle handshakeTime began shutdown is, (∀ x ∈ is, x.1 ≤ T) →
      (Connection.Task.start l handle s.terms.pongTime handshakeTime began shutdown).IsShown is) ↔
        T / 1000 + s.pongTime ≤ Clock.last) :=
  have hrange := inRange_of_resolve h
  ⟨hrange, Keepalive.run_iff, deadlines_iff hrange.pongTime.1 T⟩

theorem deadlines_shown_standard :
    resolve (fun _ => none) {} = .ok standard ∧
    ∀ r n ws p k, (∀ w ∈ ws, w.start ≤ 3155760000) →
      (Keepalive.run standard.pingInterval r n ws p).1 ≠ .overflow k := by
  have h : resolve (fun _ => none) {} = .ok standard := rfl
  exact ⟨h, (deadlines_shown_iff h 3155760000000).2.1.mpr (by decide)⟩

theorem longest_times_overflow :
    let text := "[keepalive]\nping_intervall_s = 9223372036854775807\n" ++
      "pong_timeout_s = 9223372036854775807"
    ∃ s, resolve (fun _ => some text) { config := some "funkstelle.toml" } = .ok s ∧
      (∀ now, 1 ≤ now →
        (Keepalive.run s.pingInterval .empty 0 [⟨now, false⟩] .empty).1 = .overflow 0) ∧
      ∀ T : Connection.Time, 1000 ≤ T →
        ∃ d ∈ (Connection.Task.start .plain ⟨1, 1⟩ s.terms.pongTime 0 0 false).deadlines
          [(T, .upgraded), (T, .order (.text ""))], Clock.last < d / 1000 := by
  intro text
  let s : Settings := { standard with pingInterval := Clock.last, pongTime := Clock.last }
  have hread : Document.read? text =
      some { pingInterval := some Clock.last, pongTime := some Clock.last } := by
    decide +kernel
  have htaken : resolve (fun _ => some text) { config := some "funkstelle.toml" } = .ok s := by
    exact @resolve_eq_layers { config := some "funkstelle.toml" } _ (fun _ => some text) _ text
      rfl rfl hread
  refine ⟨s, htaken, fun now hn => Keepalive.run_overflow ?_, fun T hT =>
    ⟨_, Connection.Task.mem_deadlines _ _ _ 0 0 T, ?_⟩⟩
  · rw [Nat.add_comm]
    exact Nat.lt_add_of_pos_right hn
  · have hseconds : (T + Clock.last * 1000) / 1000 = T / 1000 + Clock.last :=
      Nat.add_mul_div_right T Clock.last (by decide)
    have hpos : 0 < T / 1000 := Nat.div_pos hT (by decide)
    change Clock.last < (T + Clock.last * 1000) / 1000
    rw [hseconds]
    exact Nat.lt_add_of_pos_left hpos

end Settings

end Rendezvous
