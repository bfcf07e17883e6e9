import Mathlib.Data.List.TakeWhile
import Rendezvous.Proofs.Worker.Calls
import Rendezvous.Proofs.Worker.Lifecycle

namespace Rendezvous

namespace Action

variable {as : List Action} {a : Action} {v : ConnectionId} {l m : Listener} {h g : Handle}

def Apart (as : List Action) : Prop := ∀ l h m g,
  .subscribe l h ∈ as → .subscribe m g ∈ as → h.mailbox = g.mailbox → h.connection = g.connection

lemma processed_of_prefix {bs : List Action} (h : as <+: processed bs) : processed as = as := by
  refine List.takeWhile_eq_self_iff.mpr fun a ha => ?_
  exact List.all_eq_true.mp List.all_takeWhile a (h.subset ha)

lemma lifecycles_iff :
    Lifecycles as ↔ ∀ v ∈ as.filterMap Action.connection?, (stage? v as).isSome := by
  refine ⟨fun h v _ => h v, fun h v => ?_⟩
  by_cases hv : v ∈ as.filterMap Action.connection?
  · exact h v hv
  · have hnone : as.filter (fun a => a.connection? == some v) = [] := by
      refine List.filter_eq_nil_iff.mpr fun a ha => ?_
      rw [beq_iff_eq]
      exact fun h => hv (List.mem_filterMap.mpr ⟨a, ha, h⟩)
    rw [stage?, hnone]
    rfl

instance : Decidable (Lifecycles as) := decidable_of_iff' _ lifecycles_iff

lemma stage?_ne_fresh (ha : a ∈ as) (hv : a.connection? = some v) : stage? v as ≠ some .fresh := by
  induction as using List.reverseRecOn with
  | nil => cases ha
  | append_singleton as b ih =>
    by_cases hb : b.connection? = some v
    · rw [stage?_concat hb]
      rcases stage? v as with _ | ⟨_ | _ | _⟩ <;> cases b <;> simp [Stage.next?]
    · rw [stage?_concat_of_ne hb]
      have hne : a ≠ b := fun he => hb (he ▸ hv)
      exact ih ((List.mem_append.mp ha).resolve_right fun h => hne (List.mem_singleton.mp h))

lemma Lifecycles.subscribe_unique (hl : Lifecycles as) (hh : .subscribe l h ∈ as)
    (hg : .subscribe m g ∈ as) (hv : h.connection = g.connection) : l = m ∧ h = g := by
  induction as using List.reverseRecOn with
  | nil => cases hh
  | append_singleton as a ih =>
    have hlast {l m : Listener} {h g : Handle} (hl : Lifecycles (as ++ [.subscribe l h]))
        (hg : .subscribe m g ∈ as) : h.connection ≠ g.connection := fun hv =>
      stage?_ne_fresh hg rfl (hv ▸ hl.fresh_of_subscribe)
    rcases List.mem_append.mp hh with hh | hh
    · rcases List.mem_append.mp hg with hg | hg
      · exact ih hl.of_append hh hg
      · rw [← List.mem_singleton.mp hg] at hl
        exact absurd hv.symm (hlast hl hh)
    · rw [← List.mem_singleton.mp hh] at hl
      rcases List.mem_append.mp hg with hg | hg
      · exact absurd hv (hlast hl hg)
      · cases (List.mem_singleton.mp hh).trans (List.mem_singleton.mp hg).symm
        exact ⟨rfl, rfl⟩

lemma Lifecycles.up_concat (hl : Lifecycles (as ++ [a])) (hv : stage? v as = some (.up l))
    (ha : a ≠ .unsubscribe v) : stage? v (as ++ [a]) = some (.up l) := by
  by_cases hconnection : a.connection? = some v
  · have hsome := hl v
    rw [stage?_concat hconnection, hv] at hsome ⊢
    cases a with
    | subscribe m h => cases hsome
    | unsubscribe w => exact absurd (congrArg Action.unsubscribe (Option.some.inj hconnection)) ha
    | message w p => rfl
    | exit => cases hconnection
  · rw [stage?_concat_of_ne hconnection, hv]

end Action

namespace Worker

section Run

variable {σ : Type}

lemma drain_eq (h : Handler σ) (as : List Action) (w : Worker σ) :
    ∃ es : List Log.Entry, (drain h as w).2.2 =
      es.foldl (fun w e => w.note h e) ((Action.processed as).foldl (step h) w) := by
  induction as generalizing w with
  | nil => exact ⟨[], rfl⟩
  | cons a as ih =>
    by_cases ha : a = .exit
    · subst ha
      exact ⟨[Log.trace "Action entnommen"], rfl⟩
    · rw [drain_cons ha, Action.processed_cons ha]
      exact ih (w.step h a)

lemma run_eq (h : Handler σ) (as : List Action) (w : Worker σ) :
    ∃ es : List Log.Entry, (run h ⟨as⟩ w).2 =
      es.foldl (fun w e => w.note h e) ((Action.processed as).foldl (step h) (w.start h)) := by
  obtain ⟨es, hdrain⟩ := drain_eq h as (w.start h)
  rw [run]
  rcases hd : drain h as (w.start h) with ⟨_ | _, rest, u⟩
  all_goals
    rw [hd] at hdrain
    change u = _ at hdrain
  · exact ⟨es, hdrain⟩
  · change ∃ es : List Log.Entry, u.finish h rest = _
    rw [finish]
    cases rest with
    | nil =>
      refine ⟨es ++ [Log.debug "Worker beendet"], ?_⟩
      rw [List.foldl_concat, ← hdrain]
      rfl
    | cons a rest =>
      refine ⟨es ++ [Log.debug "Actions nach Exit verworfen", Log.debug "Worker beendet"], ?_⟩
      rw [List.foldl_append, ← hdrain]
      rfl

end Run

variable {ice : Ice} {as pre : List Action} {v : ConnectionId} {l : Listener} {k j : MailboxKey}

lemma take_fst (c : Registry × Room) (a : Action) : (take ice c a).1 = c.1.enact a := by
  cases a with
  | subscribe l h => rfl
  | unsubscribe v =>
    rw [take, Registry.enact]
    split
    · rfl
    · rename_i hnone
      exact (Registry.remove_snd (Option.not_isSome_iff_eq_none.mp hnone)).symm
  | message v p => cases p <;> rfl
  | exit => rfl

lemma foldl_take_fst (c : Registry × Room) :
    (as.foldl (take ice) c).1 = as.foldl Registry.enact c.1 := by
  induction as generalizing c with
  | nil => rfl
  | cons a as ih => exact (ih _).trans (congrArg (as.foldl Registry.enact) (take_fst c a))

lemma core_foldl (ice : Ice) (as : List Action) (w : Worker Exchange) :
    (as.foldl (step (Exchange.handler ice)) w).core = as.foldl (take ice) w.core := by
  induction as generalizing w with
  | nil => rfl
  | cons a as ih => exact (ih _).trans (congrArg (as.foldl (take ice)) (core_step ice w a))

lemma find?_iff (ice : Ice) (hl : Action.Lifecycles as)
    (happart : Action.Apart as) (hv : .subscribe l ⟨v, k⟩ ∈ as) (hpre : pre <+: as) :
    let r := (pre.foldl (take ice) (.empty, .empty)).1
    (∀ w, r.find? w = some k → w = v) ∧
      ((∃ m, Action.stage? v pre = some (.up m)) → r.find? v = some k) := by
  intro r
  obtain ⟨rest, rfl⟩ := hpre
  have horderly : Orderly pre (pre.foldl (take ice) (.empty, .empty)) := .foldl _ rfl hl.of_append
  have hslot {m : Listener} {w : ConnectionId} {j : MailboxKey} (h : r.slot? m w = some j) :
      .subscribe m ⟨w, j⟩ ∈ pre ++ rest := by
    have hr : r = pre.foldl Registry.enact .empty := foldl_take_fst _
    rw [hr] at h
    exact List.mem_append_left _ (Action.subscribe_mem_of_slot? h)
  have hfind {w : ConnectionId} {j : MailboxKey} (h : r.find? w = some j) :
      ∃ m, .subscribe m ⟨w, j⟩ ∈ pre ++ rest := by
    rcases Registry.find?_eq_some.mp h with h | ⟨-, h⟩
    · exact ⟨.plain, hslot h⟩
    · exact ⟨.tls, hslot h⟩
  constructor
  · intro w hw
    obtain ⟨m, hm⟩ := hfind hw
    exact happart m ⟨w, k⟩ l ⟨v, k⟩ hm hv rfl
  · rintro ⟨m, hup⟩
    have hsome : (r.find? v).isSome := Registry.find?_isSome.mpr ⟨m, horderly.listed.mpr hup⟩
    obtain ⟨j, hj⟩ := Option.isSome_iff_exists.mp hsome
    obtain ⟨m, hm⟩ := hfind hj
    have hsame : (⟨v, j⟩ : Handle) = ⟨v, k⟩ := (hl.subscribe_unique hm hv rfl).2
    obtain rfl : j = k := congrArg Handle.mailbox hsame
    exact hj

end Worker

end Rendezvous
