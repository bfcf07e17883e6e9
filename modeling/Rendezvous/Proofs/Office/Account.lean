import Mathlib.Data.List.Induction
import Rendezvous.Proofs.Office.Sound

/-! The account of a mailbox over any number of operations: what its receiver has been given,
followed by what still waits for it, is what the calls have put in. -/

namespace Rendezvous.Office

def after (ops : List Operation) : Office := ops.foldl (fun s op => (s.perform op).2) .empty

def Answer.reception? : Answer → Option Reception
  | .received r => some r
  | _ => none

def Reception.order? : Reception → Option Order
  | .order o => some o
  | _ => none

section Gathering

variable {α : Type} {f : Office → Operation → List α} {s : Office} {op : Operation}
  {ops : List Operation}

def gather (f : Office → Operation → List α) : List Operation → Office → List α
  | [], _ => []
  | op :: ops, s => f s op ++ gather f ops (s.perform op).2

lemma gather_concat : gather f (ops ++ [op]) s =
    gather f ops s ++ f (ops.foldl (fun s op => (s.perform op).2) s) op := by
  induction ops generalizing s with
  | nil => exact List.append_nil _
  | cons op' ops ih => rw [List.cons_append, gather, ih, gather, List.foldl_cons, List.append_assoc]

end Gathering

def told (k : MailboxKey) (s : Office) (op : Operation) : List Reception :=
  if op = .receive k then (s.perform op).1.reception?.toList else []

def accepted (k : MailboxKey) (s : Office) (op : Operation) : List Order :=
  if s.Succeeds op k then op.order?.toList else []

def Live (s : Office) (k : MailboxKey) : Prop := s.post.isOpen k ∨ s.post.fresh ≤ k

/-- The last sender of the mailbox goes: its connection is removed, or another handle takes its
slot. -/
def Detaches (s : Office) (k : MailboxKey) : Operation → Prop
  | .remove v => s.registry.find? v = some k
  | .add l h => h ∈ s.held ∧ s.registry.slot? l h.connection = some k
  | _ => False

variable {s : Office} {k : MailboxKey} {op : Operation} {o : Order} {ops : List Operation}

lemma told_of_ne (h : op ≠ .receive k) : told k s op = [] := if_neg h

lemma told_receive : told k s (.receive k) = [match (s.post.waiting k).head? with
    | some o => .order o
    | none => if s.holds k then .waiting else .closed] := by
  rw [told, if_pos rfl, ← Post.take_fst]
  rfl

lemma orders_told_receive :
    (told k s (.receive k)).filterMap Reception.order? = (s.post.take k).1.toList := by
  rw [told_receive, Post.take_fst]
  cases (s.post.waiting k).head? with
  | some o => rfl
  | none => cases s.holds k <;> rfl

lemma accepted_of_order?_eq_none (ho : op.order? = none) : accepted k s op = [] := by
  rw [accepted, ho]
  exact ite_self _

lemma accepted_call (ho : op.order? = some o) :
    accepted k s op = if s.Succeeds op k then [o] else [] := by
  rw [accepted, ho]
  rfl

lemma Live.of_perform (hk : (s.perform op).2.Live k) : s.Live k := by
  rcases hk with hopen | hfresh
  · refine perform_keeps (P := fun q => q.isOpen k → s.Live k)
      (fun q j o hq hput => hq (Post.isOpen_put ▸ hput)) (fun hcreate => ?_)
      (fun j htake => Or.inl (Post.isOpen_take ▸ htake)) (fun j habandon => ?_) Or.inl hopen
    · rw [Post.isOpen_create, Bool.or_eq_true, decide_eq_true_eq] at hcreate
      exact hcreate.symm.imp id Nat.le_of_eq
    · rw [Post.isOpen_abandon, Bool.and_eq_true] at habandon
      exact Or.inl habandon.1
  · exact Or.inr (Nat.le_trans fresh_le_perform hfresh)

namespace Sound

lemma waiting_perform (hs : s.Sound) (hop : op ≠ .abandon k) :
    (s.perform op).2.post.waiting k =
      if op = .receive k then (s.post.waiting k).tail
      else s.post.waiting k ++ accepted k s op := by
  cases ho : op.order? with
  | some o =>
    have hne : op ≠ .receive k := by
      rintro rfl
      cases ho
    rw [if_neg hne, hs.waiting_call ho, accepted_call ho]
  | none =>
    rw [accepted_of_order?_eq_none ho, List.append_nil]
    cases op with
    | create v =>
      rw [if_neg (by simp)]
      exact hs.ordered.waiting_create
    | add l h =>
      rw [if_neg (by simp), Office.perform]
      split <;> rfl
    | remove v => rw [if_neg (by simp), Office.perform]
    | receive j =>
      simp only [Operation.receive.injEq]
      exact Post.waiting_take.trans (by split <;> simp_all)
    | abandon j =>
      have hj : j ≠ k := fun he => hop (congrArg _ he)
      rw [if_neg (by simp)]
      exact Post.waiting_abandon.trans (if_neg hj)
    | send | broadcast | pingAll => cases ho

lemma balance (hs : s.Sound) (hk : (s.perform op).2.Live k) :
    (told k s op).filterMap Reception.order? ++ (s.perform op).2.post.waiting k =
      s.post.waiting k ++ accepted k s op := by
  by_cases hop : op = .abandon k
  · -- Its receiver is still to come, as it would be gone otherwise: there is no such mailbox yet.
    subst hop
    have hnone : s.post.box? k = none := by
      rcases hk with hopen | hfresh
      · change (s.post.abandon k).isOpen k at hopen
        simp [Post.isOpen_abandon] at hopen
      · exact hs.ordered.box?_of_le hfresh
    have hbefore : s.post.waiting k = [] := by
      rw [Post.waiting, hnone]
      rfl
    rw [hbefore, told_of_ne (by simp), accepted_of_order?_eq_none rfl]
    exact Post.waiting_abandon.trans (if_pos rfl)
  · rw [hs.waiting_perform hop]
    by_cases hr : op = .receive k
    · subst hr
      rw [if_pos rfl, orders_told_receive, accepted_of_order?_eq_none rfl, List.append_nil,
        Post.take_fst]
      cases s.post.waiting k <;> rfl
    · rw [if_neg hr, told_of_ne hr]
      rfl

lemma gone_of_detaches (hs : s.Sound) (hk : s.Detaches k op) :
    (s.perform op).2.holds k = false ∧ k < (s.perform op).2.post.fresh ∧
      (s.perform op).2.post.waiting k = s.post.waiting k := by
  rw [Bool.eq_false_iff, Ne, holds_iff, not_exists]
  cases op with
  | remove v =>
    have hfind : s.registry.find? v = some k := hk
    obtain ⟨l, hl⟩ := Option.ne_none_iff_exists'.mp fun hnone =>
      Option.some_ne_none k (hfind.symm.trans (Registry.remove_eq_none.mp hnone))
    have hat : s.At k (.slot l v) := (Registry.find?_of_remove hl).symm.trans hfind
    refine ⟨fun p hp => ?_, hs.made hat, rfl⟩
    obtain ⟨hp, hne⟩ := at_remove.mp hp
    exact hne l hl (hs.single hp hat)
  | add l h =>
    obtain ⟨hh, hslot⟩ := hk
    have hat : s.At k (.slot l h.connection) := hslot
    refine ⟨fun p hp => ?_, ?_⟩
    · rw [at_add hh] at hp
      split at hp
      · have hhand : s.At k (.hand h.connection) := by
          rw [hp]
          exact hh
        cases hs.single hat hhand
      · rename_i hne
        exact hne (hs.single hp.1 hat)
    · rw [Office.perform, if_pos hh]
      exact ⟨hs.made hat, rfl⟩
  | create | send | broadcast | pingAll | receive | abandon => exact hk.elim

lemma accepted_gone (hs : s.Sound) (hgone : s.holds k = false) : accepted k s op = [] := by
  cases ho : op.order? with
  | none => exact accepted_of_order?_eq_none ho
  | some o =>
    have hfails : ¬ s.Succeeds op k := by
      intro h
      have hholds : s.holds k := by
        rw [holds_iff]
        obtain ⟨l, v, hk⟩ := Addresses.slot ((hs.succeeds_iff ho).mp h).1
        exact ⟨.slot l v, hk⟩
      exact Bool.false_ne_true (hgone.symm.trans hholds)
    rw [accepted_call ho, if_neg hfails]

lemma holds_perform (hk : k < s.post.fresh) (hgone : s.holds k = false) :
    (s.perform op).2.holds k = false := by
  rw [Bool.eq_false_iff, Ne, holds_iff] at hgone ⊢
  rintro ⟨p, hp⟩
  rcases at_perform hp with hold | ⟨rfl, -⟩
  · exact hgone hold
  · exact Nat.lt_irrefl _ hk

lemma receptions_gone (hs : s.Sound) (hk : k < s.post.fresh) (hgone : s.holds k = false)
    (hops : .abandon k ∉ ops) :
    let n := ops.count (.receive k)
    gather (told k) ops s = ((s.post.waiting k).take n).map .order ++
      List.replicate (n - (s.post.waiting k).length) .closed := by
  induction ops generalizing s with
  | nil => simp [gather]
  | cons op ops ih =>
    rw [List.mem_cons, not_or] at hops
    have hsound : (s.perform op).2.Sound := hs.perform
    have hmade : k < (s.perform op).2.post.fresh := Nat.lt_of_lt_of_le hk fresh_le_perform
    have hrest := ih hsound hmade (holds_perform hk hgone) hops.2
    rw [hs.waiting_perform (Ne.symm hops.1), hs.accepted_gone hgone, List.append_nil] at hrest
    rw [gather, hrest]
    -- Only the receiver changes the mailbox: what it takes is the first of what waits.
    by_cases hr : op = .receive k
    · subst hr
      rw [told_receive, hgone, List.count_cons_self, if_pos rfl]
      cases s.post.waiting k with
      | nil => simp [List.replicate_succ]
      | cons o os => simp
    · rw [told_of_ne hr, if_neg hr, List.count_cons_of_ne hr]
      rfl

end Sound

lemma after_concat : after (ops ++ [op]) = ((after ops).perform op).2 := List.foldl_concat ..

lemma sound_after : (after ops).Sound := by
  induction ops using List.reverseRecOn with
  | nil => exact .empty
  | append_singleton ops op ih =>
    rw [after_concat]
    exact ih.perform

def received (k : MailboxKey) (ops : List Operation) : List Order :=
  (gather (told k) ops .empty).filterMap Reception.order?

def succeeded (k : MailboxKey) (ops : List Operation) : List Order :=
  gather (accepted k) ops .empty

lemma balance_after (hk : (after ops).Live k) :
    received k ops ++ (after ops).post.waiting k = succeeded k ops := by
  induction ops using List.reverseRecOn with
  | nil => rfl
  | append_singleton ops op ih =>
    rw [after_concat] at hk ⊢
    have hstep := sound_after.balance hk
    have hbefore := ih hk.of_perform
    rw [received, gather_concat, List.filterMap_append, List.append_assoc]
    rw [succeeded, gather_concat]
    change received k ops ++ ((told k (after ops) op).filterMap _ ++ _) =
      succeeded k ops ++ accepted k (after ops) op
    rw [hstep, ← List.append_assoc, hbefore]

lemma Sound.perform_send (hs : s.Sound) {v : ConnectionId} :
    (s.perform (.send v o)).1 = .posted [.taken] ↔ ∃ j, s.Succeeds (.send v o) j :=
  calc (s.perform (.send v o)).1 = .posted [.taken]
    _ ↔ (s.post.send s.registry v o).1 = .taken := by
      change Answer.posted [(s.post.send s.registry v o).1] = _ ↔ _
      rw [Answer.posted.injEq, List.cons.injEq, and_iff_left rfl]
    _ ↔ ∃ j, s.registry.find? v = some j ∧ s.post.Admits j := Post.send_taken
    _ ↔ ∃ j, s.Succeeds (.send v o) j := exists_congr fun j => by
      rw [hs.succeeds_iff rfl, Registry.find?_eq_some]
      rfl

theorem after_accounts (ops : List Operation) (k : MailboxKey) :
    let s := after ops
    (s.post.isOpen k → received k ops ++ s.post.waiting k = succeeded k ops) ∧
    (s.post.waiting k).length ≤ 256 ∧
    (∀ op o, op.order? = some o →
      (s.Succeeds op k ↔
        s.Addresses k op ∧ s.post.isOpen k ∧ (s.post.waiting k).length < 256) ∧
      (s.perform op).2.post.waiting k =
        s.post.waiting k ++ if s.Succeeds op k then [o] else []) ∧
    (∀ op later, s.Detaches k op → .abandon k ∉ later →
      let n := later.count (.receive k)
      gather (told k) later (s.perform op).2 = ((s.post.waiting k).take n).map .order ++
        List.replicate (n - (s.post.waiting k).length) .closed) ∧
    ∀ v o, ((s.perform (.send v o)).1 = .posted [.taken] ↔ ∃ j, s.Succeeds (.send v o) j) ∧
      (s.post.isConnected s.registry v = false → (s.perform (.send v o)).1 ≠ .posted [.taken]) := by
  intro s
  have hs : s.Sound := sound_after
  refine ⟨fun hopen => balance_after (Or.inl hopen), hs.bounded k,
    fun op o ho => ⟨hs.succeeds_iff ho, hs.waiting_call ho⟩, fun op later hk hlater => ?_,
    fun v o => ⟨hs.perform_send, fun hv hsend => ?_⟩⟩
  · obtain ⟨hgone, hmade, hwaiting⟩ := hs.gone_of_detaches hk
    rw [← hwaiting]
    exact hs.perform.receptions_gone hmade hgone hlater
  · have htaken : (s.post.send s.registry v o).1 = .taken :=
      (List.cons.inj (Answer.posted.inj hsend)).1
    exact Bool.false_ne_true (hv.symm.trans (Post.isConnected_of_send htaken))

def hidden : List Operation :=
  [.create 7, .create 7, .add .tls ⟨7, 0⟩, .add .plain ⟨7, 1⟩, .send 7 .ping, .remove 7,
    .send 7 (.text "a"), .send 7 (.text "b"), .receive 0]

theorem after_accounts_hidden :
    succeeded 0 hidden = [.text "a", .text "b"] ∧
    received 0 hidden = [.text "a"] ∧ (after hidden).post.waiting 0 = [.text "b"] ∧
    gather (told 0) [.receive 0, .receive 0] ((after hidden).perform (.remove 7)).2 =
      [.order (.text "b"), .closed] := by
  obtain ⟨hopen, hreceived, hwaiting, hfound⟩ : (after hidden).post.isOpen 0 = true ∧
      received 0 hidden = [.text "a"] ∧ (after hidden).post.waiting 0 = [.text "b"] ∧
      (after hidden).registry.find? 7 = some 0 := by decide +kernel
  have hdetaches : (after hidden).Detaches 0 (.remove 7) := hfound
  obtain ⟨hbalance, -, -, hdrained, -⟩ := after_accounts hidden 0
  have hlater := hdrained (.remove 7) [.receive 0, .receive 0] hdetaches (by decide)
  rw [hwaiting] at hlater
  refine ⟨?_, hreceived, hwaiting, hlater⟩
  rw [← hbalance hopen, hreceived, hwaiting]
  rfl

end Rendezvous.Office
