import Mathlib.Data.List.Induction
import Rendezvous.Proofs.Registry
import Rendezvous.Proofs.Worker.Simulation

namespace Rendezvous

inductive Handler.Call where
  | text (r : Registry) (v : ConnectionId) (s : String)
  | closed (r : Registry) (v : ConnectionId)
  | note (e : Log.Entry)

def Handler.Call.isNote : Handler.Call → Bool
  | .note _ => true
  | _ => false

def Handler.Call.isClosed : Handler.Call → Bool
  | .closed _ _ => true
  | _ => false

def Handler.perform {σ : Type} (h : Handler σ) (x : σ) : Handler.Call → σ
  | .text r v s => h.text r v s x
  | .closed r v => h.closed r v x
  | .note e => h.note e x

def recorder : Handler (List Handler.Call) where
  text r v s calls := calls ++ [.text r v s]
  closed r v calls := calls ++ [.closed r v]
  note e calls := calls ++ [.note e]

lemma recorder_complete {σ : Type} (h : Handler σ) (x : σ) :
    h.Simulates recorder fun y calls => y = calls.foldl h.perform x where
  text hy r v s := by
    rw [hy]
    exact (List.foldl_concat h.perform x (.text r v s) _).symm
  closed hy r v := by
    rw [hy]
    exact (List.foldl_concat h.perform x (.closed r v) _).symm
  note hy e := by
    rw [hy]
    exact (List.foldl_concat h.perform x (.note e) _).symm

def Registry.enact (r : Registry) : Action → Registry
  | .subscribe l h => r.add l h
  | .unsubscribe v => (r.remove v).2
  | .message _ _ => r
  | .exit => r

namespace Action

def subscriber? : Action → Option ConnectionId
  | .subscribe _ h => some h.connection
  | _ => none

def isText : Action → Bool
  | .message _ (.text _) => true
  | _ => false

def isBinary : Action → Bool
  | .message _ (.binary _) => true
  | _ => false

def call? (r : Registry) : Action → Option Handler.Call
  | .message v (.text s) => some (.text r v s)
  | .unsubscribe v => (r.find? v).map fun _ => .closed (r.remove v).2 v
  | _ => none

def calls : Registry → List Action → List Handler.Call
  | _, [] => []
  | r, a :: as => (a.call? r).toList ++ calls (r.enact a) as

variable {r : Registry} {as : List Action} {a : Action}

lemma calls_concat :
    calls r (as ++ [a]) = calls r as ++ (a.call? (as.foldl Registry.enact r)).toList := by
  induction as generalizing r with
  | nil => exact List.append_nil _
  | cons b as ih => rw [List.cons_append, calls, ih, calls, List.foldl_cons, List.append_assoc]

lemma subscribe_mem_of_slot? {l : Listener} {v : ConnectionId} {k : MailboxKey}
    (h : (as.foldl Registry.enact .empty).slot? l v = some k) : .subscribe l ⟨v, k⟩ ∈ as := by
  induction as using List.reverseRecOn with
  | nil => cases Registry.slot?_empty.symm.trans h
  | append_singleton as a ih =>
    rw [List.foldl_concat] at h
    rw [List.mem_append]
    cases a with
    | subscribe m handle =>
      rw [Registry.enact, Registry.slot?_add] at h
      split at h
      · rename_i hslot
        obtain ⟨v', k'⟩ := handle
        obtain ⟨rfl, rfl⟩ := hslot
        obtain rfl := Option.some.inj h
        exact Or.inr List.mem_cons_self
      · exact Or.inl (ih h)
    | unsubscribe w =>
      rw [Registry.enact, Registry.slot?_remove] at h
      split at h
      · cases h
      · exact Or.inl (ih h)
    | message w p => exact Or.inl (ih h)
    | exit => exact Or.inl (ih h)

lemma length_subscribers (hn : (as.filterMap subscriber?).Nodup) :
    (as.filterMap subscriber?).length = (calls .empty as).countP Handler.Call.isClosed +
      (as.foldl Registry.enact .empty).count := by
  induction as using List.reverseRecOn with
  | nil => simp [calls, Registry.count, Registry.empty]
  | append_singleton as a ih =>
    rw [List.filterMap_append, List.nodup_append] at hn
    have hbefore := ih hn.1
    rw [List.filterMap_append, List.length_append, calls_concat, List.countP_append, hbefore,
      List.foldl_concat]
    cases a with
    | subscribe l h =>
      have hnew : (as.foldl Registry.enact .empty).slot? l h.connection = none := by
        cases hslot : (as.foldl Registry.enact .empty).slot? l h.connection with
        | none => rfl
        | some k =>
          have hold : h.connection ∈ as.filterMap subscriber? :=
            List.mem_filterMap.mpr ⟨_, subscribe_mem_of_slot? hslot, rfl⟩
          exact absurd rfl (hn.2.2 _ hold _ List.mem_cons_self)
      rw [Registry.enact, Registry.count_add hnew]
      change _ + 1 = _ + 0 + _
      omega
    | unsubscribe v =>
      -- Whoever is found goes over from those who are there to those who have gone.
      rw [call?, Registry.enact]
      cases hfind : (as.foldl Registry.enact .empty).find? v with
      | none =>
        rw [Registry.remove_snd (Registry.remove_eq_none.mpr hfind)]
        rfl
      | some k =>
        have hsome : ((as.foldl Registry.enact .empty).remove v).1.isSome := by
          rw [← Option.ne_none_iff_isSome, Ne, Registry.remove_eq_none, hfind]
          simp
        have hcount := Registry.count_remove hsome
        change _ + 0 = _ + 1 + _
        omega
    | message v p => cases p <;> rfl
    | exit => rfl

end Action

def Statistics.count (t : Statistics) (r : Registry) (a : Action) : Statistics where
  opened := t.opened + a.subscriber?.toList.length
  closed := t.closed + (a.call? r).toList.countP Handler.Call.isClosed
  messages := t.messages + [a].countP Action.isText
  ignored := t.ignored + [a].countP Action.isBinary

namespace Worker

section Cases

variable {σ : Type} {h : Handler σ} {w : Worker σ} {v : ConnectionId}

lemma drain_cons {a : Action} {as : List Action} (ha : a ≠ .exit) :
    drain h (a :: as) w = drain h as (w.step h a) := by
  cases a with
  | exit => exact absurd rfl ha
  | subscribe | unsubscribe | message => rfl

lemma unsubscribe_of_none (hv : w.registry.find? v = none) :
    w.unsubscribe h v = w.note h (Log.debug "Unsubscribe fuer unbekannte Verbindung") := by
  have hnone : (w.registry.remove v).1 = none := Registry.remove_eq_none.mpr hv
  rw [unsubscribe]
  rcases hr : w.registry.remove v with ⟨_ | l, r⟩
  · rfl
  · rw [hr] at hnone
    cases hnone

lemma unsubscribe_of_some {k : MailboxKey} (hv : w.registry.find? v = some k) :
    w.unsubscribe h v =
      { registry := (w.registry.remove v).2
        statistics := { w.statistics with closed := w.statistics.closed + 1 }
        state := h.closed (w.registry.remove v).2 v
          (h.note (Log.debug "Verbindung abgemeldet") w.state) } := by
  have hsome : (w.registry.remove v).1 ≠ none := by
    rw [Ne, Registry.remove_eq_none, hv]
    exact Option.some_ne_none k
  rw [unsubscribe]
  rcases hr : w.registry.remove v with ⟨_ | l, r⟩
  · rw [hr] at hsome
    exact absurd rfl hsome
  · rfl

end Cases

def handled (calls : List Handler.Call) : List Handler.Call := calls.filter fun c => !c.isNote

structure Served (r : Registry) (as : List Action) (w : Worker (List Handler.Call)) : Prop where
  registry : w.registry = as.foldl Registry.enact r
  calls : handled w.state = Action.calls r as
  opened : w.statistics.opened = (as.filterMap Action.subscriber?).length
  closed : w.statistics.closed = (Action.calls r as).countP Handler.Call.isClosed
  messages : w.statistics.messages = as.countP Action.isText
  ignored : w.statistics.ignored = as.countP Action.isBinary

namespace Served

variable {r : Registry} {as : List Action} {a : Action} {w u : Worker (List Handler.Call)}

lemma start (r : Registry) : Served r [] ({ registry := r, state := [] } : Worker _) :=
  ⟨rfl, rfl, rfl, rfl, rfl, rfl⟩

lemma note (hw : w.Served r as) (e : Log.Entry) : (w.note recorder e).Served r as where
  registry := hw.registry
  calls := hw.calls ▸ (List.filter_append ..).trans (List.append_nil _)
  opened := hw.opened
  closed := hw.closed
  messages := hw.messages
  ignored := hw.ignored

lemma concat (hw : w.Served r as) (hregistry : u.registry = w.registry.enact a)
    (hcalls : handled u.state = handled w.state ++ (a.call? w.registry).toList)
    (hstatistics : u.statistics = w.statistics.count w.registry a) : u.Served r (as ++ [a]) := by
  have hlater : Action.calls r (as ++ [a]) = Action.calls r as ++ (a.call? w.registry).toList := by
    rw [Action.calls_concat, hw.registry]
  refine ⟨?_, ?_, ?_, ?_, ?_, ?_⟩
  · rw [List.foldl_concat, ← hw.registry, hregistry]
  · rw [hlater, hcalls, hw.calls]
  · rw [hstatistics, Statistics.count, List.filterMap_append, List.length_append, hw.opened]
    cases a <;> rfl
  · rw [hlater, hstatistics, Statistics.count, List.countP_append, hw.closed]
  · rw [hstatistics, Statistics.count, List.countP_append, hw.messages]
  · rw [hstatistics, Statistics.count, List.countP_append, hw.ignored]

lemma handled_concat {calls : List Handler.Call} {c : Handler.Call} (h : c.isNote = false) :
    handled (calls ++ [c]) = handled calls ++ [c] := by
  rw [handled, List.filter_append, List.filter_singleton, h]
  rfl

lemma handled_concat_note {calls : List Handler.Call} {e : Log.Entry} :
    handled (calls ++ [.note e]) = handled calls :=
  (List.filter_append ..).trans (List.append_nil _)

lemma unsubscribe (hw : w.Served r as) (v : ConnectionId) :
    (w.unsubscribe recorder v).Served r (as ++ [.unsubscribe v]) := by
  cases hv : w.registry.find? v with
  | none =>
    rw [unsubscribe_of_none hv]
    refine hw.concat (Registry.remove_snd (Registry.remove_eq_none.mpr hv)).symm ?_ ?_
    · rw [Action.call?, hv]
      exact handled_concat_note.trans (List.append_nil _).symm
    · rw [Statistics.count, Action.call?, hv]
      rfl
  | some k =>
    rw [unsubscribe_of_some hv]
    refine hw.concat rfl ?_ ?_
    · rw [Action.call?, hv]
      exact (handled_concat rfl).trans (congrArg (· ++ _) handled_concat_note)
    · rw [Statistics.count, Action.call?, hv]
      rfl

lemma step (hw : w.Served r as) (ha : a ≠ .exit) : (w.step recorder a).Served r (as ++ [a]) := by
  have htrace := hw.note (Log.trace "Action entnommen")
  cases a with
  | subscribe l h =>
    exact htrace.concat rfl (handled_concat_note.trans (List.append_nil _).symm) rfl
  | unsubscribe v => exact htrace.unsubscribe v
  | message v p =>
    cases p with
    | text s => exact htrace.concat rfl (handled_concat rfl) rfl
    | binary bs =>
      exact htrace.concat rfl (handled_concat_note.trans (List.append_nil _).symm) rfl
  | exit => exact absurd rfl ha

lemma finish (hw : w.Served r as) (rest : List Action) : (w.finish recorder rest).Served r as := by
  rw [Worker.finish]
  cases rest with
  | nil => exact hw.note _
  | cons a rest => exact (hw.note _).note _

end Served

end Worker

end Rendezvous
