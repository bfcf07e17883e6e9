import Mathlib.Tactic.Lemma
import Rendezvous.Connection.Task

/-!
What a connection tells the worker: nothing after the end, reports and a farewell while subscribed,
and a subscription before them if the handshake leads to one.
-/

namespace Rendezvous.Connection

def payload? : WebSocket.Message → Option Payload
  | .text s => some (.text s)
  | .binary bs => some (.binary bs)
  | _ => none

def Effect.action? : Effect → Option Action
  | .enqueue a => some a
  | _ => none

def actions (es : List Effect) : List Action := es.filterMap Effect.action?

@[simp] lemma actions_nil : actions [] = [] := rfl

@[simp] lemma actions_cons (e : Effect) (es : List Effect) :
    actions (e :: es) = e.action?.toList ++ actions es := by
  cases e <;> rfl

@[simp] lemma actions_append (es fs : List Effect) : actions (es ++ fs) = actions es ++ actions fs :=
  List.filterMap_append

def reports (v : ConnectionId) (heard : List WebSocket.Message) : List Action :=
  (heard.filterMap payload?).map (.message v)

@[simp] lemma reports_append (v : ConnectionId) (ms ns : List WebSocket.Message) :
    reports v (ms ++ ns) = reports v ms ++ reports v ns := by
  simp [reports]

def farewell (v : ConnectionId) (ended : Bool) : List Action :=
  if ended then [.unsubscribe v] else []

/-- All that a connection tells the worker: that it is there, what it hears, and that it is gone. -/
def account (l : Listener) (h : Handle) (opened ended : Bool) (heard : List WebSocket.Message) :
    List Action :=
  if opened then .subscribe l h :: reports h.connection heard ++ farewell h.connection ended else []

namespace Task

def isShaking (t : Task) : Bool :=
  match t.phase with
  | .handshake _ => true
  | _ => false

def serves (t : Task) : Bool := !t.isShaking && !t.hasEnded

def opens (t : Task) : Incident → Bool
  | .upgraded => t.isShaking
  | _ => false

def hears? (t : Task) : Incident → Option WebSocket.Message
  | .message m => if t.phase = .idle then some m else none
  | _ => none

def opened (t : Task) : List (Time × Incident) → Bool
  | [] => false
  | (now, i) :: rest => t.opens i || (t.step now i).1.opened rest

def heard (t : Task) : List (Time × Incident) → List WebSocket.Message
  | [] => []
  | (now, i) :: rest => (t.hears? i).toList ++ (t.step now i).1.heard rest

lemma hears?_of_not_serves {t : Task} (h : t.serves = false) (i : Incident) :
    t.hears? i = none := by
  cases i with
  | message m =>
    have hp : t.phase ≠ .idle := by
      intro hp
      simp [serves, isShaking, hasEnded, hp] at h
    simp [hears?, hp]
  | _ => rfl

lemma opens_of_not_isShaking {t : Task} (h : t.isShaking = false) (i : Incident) :
    t.opens i = false := by
  cases i <;> first | exact h | rfl

lemma step_of_hasEnded {t : Task} (h : t.hasEnded = true) (now : Time) (i : Incident) :
    t.step now i = (t, []) := by
  have hp : t.phase = .ended := by simpa [hasEnded] using h
  simp [step, hp]

lemma step_keeps (t : Task) (now : Time) (i : Incident) :
    (t.step now i).1.listener = t.listener ∧ (t.step now i).1.handle = t.handle := by
  obtain ⟨l, h, pongTime, since, phase⟩ := t
  cases phase with
  | idle =>
    cases i with
    | order o => cases o <;> exact ⟨rfl, rfl⟩
    | message m => cases m <;> exact ⟨rfl, rfl⟩
    | tick => dsimp only [step, stepIdle]; split <;> exact ⟨rfl, rfl⟩
    | _ => exact ⟨rfl, rfl⟩
  | _ =>
    cases i with
    | tick => dsimp only [step]; first | exact ⟨rfl, rfl⟩ | (split <;> exact ⟨rfl, rfl⟩)
    | _ => exact ⟨rfl, rfl⟩

lemma step_of_opens {t : Task} {i : Incident} (h : t.opens i = true) (now : Time) :
    t.step now i = t.subscribe := by
  obtain ⟨l, h', pongTime, since, phase⟩ := t
  cases i with
  | upgraded => cases phase <;> simp_all [opens, isShaking, step]
  | _ => simp [opens] at h

lemma step_of_isShaking {t : Task} {i : Incident} (h : t.isShaking = true)
    (ho : t.opens i = false) (now : Time) :
    (t.step now i).2 = [] ∧ (t.step now i).1.serves = false := by
  obtain ⟨l, h', pongTime, since, phase⟩ := t
  cases phase with
  | handshake deadline =>
    cases i with
    | upgraded => simp [opens, isShaking] at ho
    | tick =>
      dsimp only [step]
      refine ⟨rfl, ?_⟩
      split <;> rfl
    | _ => exact ⟨rfl, rfl⟩
  | _ => simp [isShaking] at h

lemma step_of_serves {t : Task} (h : t.serves = true) (now : Time) (i : Incident) :
    ((t.step now i).1.serves = true ∧
      actions (t.step now i).2 = reports t.handle.connection (t.hears? i).toList) ∨
    (t.hears? i = none ∧ t.step now i = t.unsubscribe) := by
  obtain ⟨l, h', pongTime, since, phase⟩ := t
  cases phase with
  | handshake deadline => simp [serves, isShaking] at h
  | ended => simp [serves, hasEnded] at h
  | idle =>
    refine .inl ?_
    cases i with
    | order o => cases o <;> exact ⟨rfl, rfl⟩
    | message m => cases m <;> exact ⟨rfl, rfl⟩
    | tick => dsimp only [step, stepIdle]; split <;> exact ⟨rfl, rfl⟩
    | _ => exact ⟨rfl, rfl⟩
  | writing deadline =>
    refine .inl ?_
    cases i with
    | tick => dsimp only [step]; split <;> exact ⟨rfl, rfl⟩
    | _ => exact ⟨rfl, rfl⟩
  | parting deadline =>
    refine .inl ?_
    cases i with
    | tick => dsimp only [step]; split <;> exact ⟨rfl, rfl⟩
    | _ => exact ⟨rfl, rfl⟩
  | finishing deadline =>
    cases i with
    | written => exact .inr ⟨rfl, rfl⟩
    | writeFailed => exact .inr ⟨rfl, rfl⟩
    | tick =>
      dsimp only [step]
      split
      · exact .inr ⟨rfl, rfl⟩
      · exact .inl ⟨rfl, rfl⟩
    | _ => exact .inl ⟨rfl, rfl⟩

@[simp] lemma hasEnded_unsubscribe (t : Task) : t.unsubscribe.1.hasEnded = true := rfl

@[simp] lemma actions_unsubscribe (t : Task) :
    actions t.unsubscribe.2 = [.unsubscribe t.handle.connection] := rfl

@[simp] lemma serves_subscribe (t : Task) : t.subscribe.1.serves = true := rfl

@[simp] lemma actions_subscribe (t : Task) :
    actions t.subscribe.2 = [.subscribe t.listener t.handle] := rfl

lemma not_isShaking_of_serves {t : Task} (h : t.serves = true) : t.isShaking = false := by
  simp only [serves, Bool.and_eq_true, Bool.not_eq_true'] at h
  exact h.1

lemma not_hasEnded_of_serves {t : Task} (h : t.serves = true) : t.hasEnded = false := by
  simp only [serves, Bool.and_eq_true, Bool.not_eq_true'] at h
  exact h.2

lemma not_isShaking_of_hasEnded {t : Task} (h : t.hasEnded = true) : t.isShaking = false := by
  have hp : t.phase = .ended := by simpa [hasEnded] using h
  simp [isShaking, hp]

lemma not_serves_of_hasEnded {t : Task} (h : t.hasEnded = true) : t.serves = false := by
  simp [serves, h]

lemma not_serves_of_isShaking {t : Task} (h : t.isShaking = true) : t.serves = false := by
  simp [serves, h]

lemma hasEnded_of_not {t : Task} (hk : t.isShaking = false) (hs : t.serves = false) :
    t.hasEnded = true := by
  simpa [serves, hk] using hs

lemma run_cons (t : Task) (x : Time × Incident) (is : List (Time × Incident)) :
    t.run (x :: is) =
      (((t.step x.1 x.2).1.run is).1, (t.step x.1 x.2).2 ++ ((t.step x.1 x.2).1.run is).2) := rfl

lemma run_append (t : Task) (is js : List (Time × Incident)) :
    t.run (is ++ js) = (((t.run is).1.run js).1, (t.run is).2 ++ ((t.run is).1.run js).2) := by
  induction is generalizing t with
  | nil => rfl
  | cons x is ih => simp only [List.cons_append, run_cons, ih, List.append_assoc]

lemma opened_append (t : Task) (is js : List (Time × Incident)) :
    t.opened (is ++ js) = (t.opened is || (t.run is).1.opened js) := by
  induction is generalizing t with
  | nil => rfl
  | cons x is ih => simp only [List.cons_append, opened, run_cons, ih, Bool.or_assoc]

lemma heard_append (t : Task) (is js : List (Time × Incident)) :
    t.heard (is ++ js) = t.heard is ++ (t.run is).1.heard js := by
  induction is generalizing t with
  | nil => rfl
  | cons x is ih => simp only [List.cons_append, heard, run_cons, ih, List.append_assoc]

lemma run_of_hasEnded {t : Task} (h : t.hasEnded = true) (is : List (Time × Incident)) :
    t.run is = (t, []) ∧ t.opened is = false ∧ t.heard is = [] := by
  induction is with
  | nil => exact ⟨rfl, rfl, rfl⟩
  | cons x is ih =>
    have hs := step_of_hasEnded h x.1 x.2
    have ho := opens_of_not_isShaking (not_isShaking_of_hasEnded h) x.2
    have hh := hears?_of_not_serves (not_serves_of_hasEnded h) x.2
    simp [run_cons, opened, heard, hs, ho, hh, ih]

lemma run_of_serves {t : Task} (h : t.serves = true) (is : List (Time × Incident)) :
    t.opened is = false ∧
    actions (t.run is).2 = reports t.handle.connection (t.heard is) ++
      farewell t.handle.connection (t.run is).1.hasEnded := by
  induction is generalizing t with
  | nil => simp [run, opened, heard, actions, reports, farewell, not_hasEnded_of_serves h]
  | cons x is ih =>
    have ho := opens_of_not_isShaking (not_isShaking_of_serves h) x.2
    have hk := (step_keeps t x.1 x.2).2
    rcases step_of_serves h x.1 x.2 with ⟨hs, ha⟩ | ⟨hh, hs⟩
    · obtain ⟨hr, har⟩ := ih hs
      simp [run_cons, opened, heard, ho, hr, har, ha, hk]
    · obtain ⟨hr, hro, hrh⟩ := run_of_hasEnded (hasEnded_unsubscribe t) is
      simp [run_cons, opened, heard, ho, hh, hs, hr, hro, hrh, reports, farewell]

lemma serves_of_step {t : Task} {now : Time} {i : Incident}
    (h : (t.step now i).1.serves = true) : t.serves = true ∨ t.opens i = true := by
  cases hs : t.serves with
  | true => exact .inl rfl
  | false =>
    cases ho : t.opens i with
    | true => exact .inr rfl
    | false =>
      cases hk : t.isShaking with
      | true => simp [(step_of_isShaking hk ho now).2] at h
      | false => simp [step_of_hasEnded (hasEnded_of_not hk hs), hs] at h

lemma serves_of_run {t : Task} {is : List (Time × Incident)} (h : (t.run is).1.serves = true) :
    t.serves = true ∨ t.opened is = true := by
  induction is generalizing t with
  | nil => exact .inl h
  | cons x is ih =>
    simp only [opened, Bool.or_eq_true]
    rcases ih (t := (t.step x.1 x.2).1) h with hs | ho
    · exact (serves_of_step hs).imp id .inl
    · exact .inr (.inr ho)

lemma run_of_isShaking {t : Task} (h : t.isShaking = true) (is : List (Time × Incident)) :
    actions (t.run is).2 =
      account t.listener t.handle (t.opened is) (t.run is).1.hasEnded (t.heard is) := by
  induction is generalizing t with
  | nil => rfl
  | cons x is ih =>
    have hk := step_keeps t x.1 x.2
    have hh := hears?_of_not_serves (not_serves_of_isShaking h) x.2
    cases ho : t.opens x.2 with
    | true =>
      have hs := step_of_opens ho x.1
      have hr := run_of_serves (serves_subscribe t) is
      rw [hs] at hk
      simp [run_cons, opened, heard, account, ho, hh, hs, hr, hk]
    | false =>
      obtain ⟨hs, hn⟩ := step_of_isShaking h ho x.1
      cases hx : (t.step x.1 x.2).1.isShaking with
      | true => simp [run_cons, opened, heard, ho, hh, hs, ih hx, hk]
      | false =>
        obtain ⟨hr, hro, -⟩ := run_of_hasEnded (hasEnded_of_not hx hn) is
        simp [run_cons, opened, account, ho, hs, hr, hro, actions]

lemma run_start (l : Listener) (h : Handle) (pongTime handshakeTime now : Time) (shutdown : Bool)
    (is : List (Time × Incident)) :
    let t := start l h pongTime handshakeTime now shutdown
    actions (t.run is).2 =
      if shutdown then [] else account l h (t.opened is) (t.run is).1.hasEnded (t.heard is) := by
  cases shutdown with
  | true =>
    have he : (start l h pongTime handshakeTime now true).hasEnded = true := rfl
    simp [(run_of_hasEnded he is).1]
  | false => exact run_of_isShaking rfl is

lemma not_serves_start (l : Listener) (h : Handle) (pongTime handshakeTime now : Time)
    (shutdown : Bool) : (start l h pongTime handshakeTime now shutdown).serves = false := by
  cases shutdown <;> rfl

end Task

end Rendezvous.Connection
