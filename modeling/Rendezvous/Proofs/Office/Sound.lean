import Rendezvous.Office
import Rendezvous.Proofs.Post
import Rendezvous.Proofs.Registry

namespace Rendezvous.Office

inductive Place where
  | hand (v : ConnectionId)
  | slot (l : Listener) (v : ConnectionId)
deriving DecidableEq

def At (s : Office) (k : MailboxKey) : Place → Prop
  | .hand v => ⟨v, k⟩ ∈ s.held
  | .slot l v => s.registry.slot? l v = some k

structure Sound (s : Office) : Prop where
  single : ∀ {k p q}, s.At k p → s.At k q → p = q
  made : ∀ {k p}, s.At k p → k < s.post.fresh
  ordered : s.post.Ordered
  bounded : s.post.Bounded

variable {s : Office} {k : MailboxKey} {p : Place} {l : Listener} {v : ConnectionId} {h : Handle}
  {op : Operation} {o : Order}

lemma holds_iff : s.holds k ↔ ∃ p, s.At k p := by
  rw [holds, Bool.or_eq_true, Registry.holds_iff, List.any_eq_true]
  constructor
  · rintro (⟨l, v, hk⟩ | ⟨⟨v, j⟩, hh, hj⟩)
    · exact ⟨.slot l v, hk⟩
    · obtain rfl : j = k := beq_iff_eq.mp hj
      exact ⟨.hand v, hh⟩
  · rintro ⟨_ | ⟨l, v⟩, hk⟩
    · exact Or.inr ⟨_, hk, beq_self_eq_true k⟩
    · exact Or.inl ⟨l, v, hk⟩

lemma not_at_empty : ¬ Office.empty.At k p := by
  intro hk
  cases p with
  | hand v => exact absurd hk List.not_mem_nil
  | slot l v =>
    have hnone : Registry.empty.slot? l v = none := Registry.slot?_empty
    cases hnone.symm.trans hk

lemma at_create : (s.perform (.create v)).2.At k p ↔
    s.At k p ∨ k = s.post.fresh ∧ p = .hand v := by
  cases p with
  | hand w =>
    change ⟨w, k⟩ ∈ ⟨v, s.post.fresh⟩ :: s.held ↔ ⟨w, k⟩ ∈ s.held ∨ _
    simp [or_comm, and_comm]
  | slot m w => simp [At, perform]

lemma at_add (hh : h ∈ s.held) : (s.perform (.add l h)).2.At k p ↔
    if p = .slot l h.connection then k = h.mailbox
    else s.At k p ∧ ¬ (k = h.mailbox ∧ p = .hand h.connection) := by
  rw [perform, if_pos hh]
  cases p with
  | hand w =>
    obtain ⟨v, j⟩ := h
    simp [At, and_comm, imp_iff_not_or]
  | slot m w =>
    simp only [At, Registry.slot?_add, Place.slot.injEq]
    by_cases hm : l = m ∧ h.connection = w
    · simp [hm.1.symm, hm.2.symm, eq_comm]
    · have hne : ¬ (m = l ∧ w = h.connection) := fun he => hm ⟨he.1.symm, he.2.symm⟩
      simp [hm, hne]

lemma at_remove : (s.perform (.remove v)).2.At k p ↔
    s.At k p ∧ ∀ l, (s.registry.remove v).1 = some l → p ≠ .slot l v := by
  cases p with
  | hand w => simp [At, perform]
  | slot m w =>
    change (s.registry.remove v).2.slot? m w = some k ↔ s.registry.slot? m w = some k ∧ _
    rw [Registry.slot?_remove]
    by_cases hm : (s.registry.remove v).1 = some m ∧ v = w
    · rw [if_pos hm]
      exact iff_of_false (by simp) fun hk => hk.2 m hm.1 (by rw [hm.2])
    · rw [if_neg hm]
      refine ⟨fun hk => ⟨hk, fun l hl he => hm ?_⟩, And.left⟩
      obtain ⟨rfl, rfl⟩ := Place.slot.inj he
      exact ⟨hl, rfl⟩

lemma at_perform (hk : (s.perform op).2.At k p) :
    (∃ q, s.At k q) ∨ k = s.post.fresh ∧ (s.perform op).2.post.fresh = k + 1 := by
  cases op with
  | create v =>
    rcases at_create.mp hk with hk | ⟨rfl, -⟩
    · exact Or.inl ⟨p, hk⟩
    · exact Or.inr ⟨rfl, rfl⟩
  | add l h =>
    by_cases hh : h ∈ s.held
    · rw [at_add hh] at hk
      split at hk
      · exact Or.inl ⟨.hand h.connection, hk ▸ hh⟩
      · exact Or.inl ⟨p, hk.1⟩
    · rw [perform, if_neg hh] at hk
      exact Or.inl ⟨p, hk⟩
  | remove v => exact Or.inl ⟨p, (at_remove.mp hk).1⟩
  | send | broadcast | pingAll | receive | abandon => exact Or.inl ⟨p, hk⟩

def Operation.order? : Operation → Option Order
  | .send _ o => some o
  | .broadcast o => some o
  | .pingAll => some .ping
  | _ => none

def targets (s : Office) : Operation → List MailboxKey
  | .send v _ => (s.registry.find? v).toList
  | .broadcast _ => s.registry.mailboxes
  | .pingAll => s.registry.mailboxes
  | _ => []

def Answer.receipts : Answer → List Receipt
  | .posted receipts => receipts
  | _ => []

def Succeeds (s : Office) (op : Operation) (k : MailboxKey) : Prop :=
  (k, .taken) ∈ (s.targets op).zip (s.perform op).1.receipts

instance (s : Office) (op : Operation) (k : MailboxKey) : Decidable (s.Succeeds op k) :=
  inferInstanceAs (Decidable (_ ∈ _))

lemma perform_call (ho : op.order? = some o) :
    (s.targets op).zip (s.perform op).1.receipts =
      (s.targets op).zip (s.post.putAll o (s.targets op)).1 ∧
    (s.perform op).2 = { s with post := (s.post.putAll o (s.targets op)).2 } := by
  cases op with
  | send v o' =>
    obtain rfl : o' = o := Option.some.inj ho
    rw [perform, Post.send, targets]
    cases s.registry.find? v with
    | none => exact ⟨rfl, rfl⟩
    | some k => exact ⟨rfl, rfl⟩
  | broadcast o' =>
    obtain rfl : o' = o := Option.some.inj ho
    exact ⟨rfl, rfl⟩
  | pingAll =>
    obtain rfl : Order.ping = o := Option.some.inj ho
    exact ⟨rfl, rfl⟩
  | create | add | remove | receive | abandon => cases ho

lemma perform_keeps {P : Post → Prop} (hput : ∀ q k o, P q → P (q.put k o).2)
    (hcreate : P s.post.create.2) (htake : ∀ k, P (s.post.take k).2)
    (habandon : ∀ k, P (s.post.abandon k)) (h : P s.post) : P (s.perform op).2.post := by
  cases op with
  | create v => exact hcreate
  | add l handle =>
    rw [perform]
    split <;> exact h
  | remove v => exact h
  | receive k => exact htake k
  | abandon k => exact habandon k
  | send | broadcast | pingAll =>
    rw [(perform_call rfl).2]
    exact Post.putAll_keeps (fun q k => hput q k _) h

lemma fresh_le_perform : s.post.fresh ≤ (s.perform op).2.post.fresh :=
  perform_keeps (P := fun q => s.post.fresh ≤ q.fresh)
    (fun _ _ _ hq => Nat.le_trans hq (Nat.le_of_eq Post.fresh_put.symm)) (Nat.le_succ _)
    (fun _ => Nat.le_of_eq Post.fresh_take.symm) (fun _ => Nat.le_refl _) (Nat.le_refl _)

namespace Sound

lemma empty : Sound .empty where
  single hp := absurd hp not_at_empty
  made hp := absurd hp not_at_empty
  ordered k m hk := by simp [Post.box?, Office.empty, Post.empty] at hk
  bounded k := by simp [Post.waiting, Post.box?, Office.empty, Post.empty]

lemma nodup_targets (hs : s.Sound) : (s.targets op).Nodup := by
  have hall : s.registry.mailboxes.Nodup := by
    refine Registry.nodup_mailboxes fun l v m w k hl hm => ?_
    exact Place.slot.inj (hs.single (p := .slot l v) (q := .slot m w) hl hm)
  cases op with
  | send v o =>
    rw [targets]
    cases s.registry.find? v with
    | none => exact List.nodup_nil
    | some k => exact List.nodup_singleton k
  | broadcast | pingAll => exact hall
  | create | add | remove | receive | abandon => exact List.nodup_nil

lemma ordered_perform (hs : s.Sound) : (s.perform op).2.post.Ordered :=
  perform_keeps (fun _ _ _ hq => hq.put) hs.ordered.create (fun _ => hs.ordered.take)
    (fun _ => hs.ordered.abandon) hs.ordered

lemma bounded_perform (hs : s.Sound) : (s.perform op).2.post.Bounded := by
  have hcreate : s.post.create.2.Bounded := by
    intro k
    rw [hs.ordered.waiting_create]
    exact hs.bounded k
  exact perform_keeps (fun _ _ _ hq => hq.put) hcreate (fun _ => hs.bounded.take)
    (fun _ => hs.bounded.abandon) hs.bounded

lemma single_perform (hs : s.Sound) {q : Place} (hp : (s.perform op).2.At k p)
    (hq : (s.perform op).2.At k q) : p = q := by
  cases op with
  | create v =>
    rcases at_create.mp hp with hp | ⟨rfl, rfl⟩
    · rcases at_create.mp hq with hq | ⟨rfl, -⟩
      · exact hs.single hp hq
      · exact absurd (hs.made hp) (Nat.lt_irrefl _)
    · rcases at_create.mp hq with hq | ⟨-, rfl⟩
      · exact absurd (hs.made hq) (Nat.lt_irrefl _)
      · rfl
  | add l h =>
    by_cases hh : h ∈ s.held
    · have hhand : s.At h.mailbox (.hand h.connection) := hh
      rw [at_add hh] at hp hq
      split at hp
      · rename_i hpl
        subst hp
        split at hq
        · rename_i hql
          rw [hpl, hql]
        · exact absurd ⟨rfl, hs.single hq.1 hhand⟩ hq.2
      · split at hq
        · subst hq
          exact absurd ⟨rfl, hs.single hp.1 hhand⟩ hp.2
        · exact hs.single hp.1 hq.1
    · rw [perform, if_neg hh] at hp hq
      exact hs.single hp hq
  | remove v => exact hs.single (at_remove.mp hp).1 (at_remove.mp hq).1
  | send | broadcast | pingAll | receive | abandon => exact hs.single (p := p) (q := q) hp hq

lemma made_perform (hs : s.Sound) (hp : (s.perform op).2.At k p) :
    k < (s.perform op).2.post.fresh := by
  rcases at_perform hp with ⟨q, hq⟩ | ⟨-, hfresh⟩
  · exact Nat.lt_of_lt_of_le (hs.made hq) fresh_le_perform
  · rw [hfresh]
    exact Nat.lt_succ_self k

lemma perform (hs : s.Sound) : (s.perform op).2.Sound where
  single := hs.single_perform
  made := hs.made_perform
  ordered := hs.ordered_perform
  bounded := hs.bounded_perform

end Sound

/-- A call reaches the mailbox that it addresses: for `send` that of the plain connection, or else
that of the encrypted one, for the others every mailbox in the registry. -/
def Addresses (s : Office) (k : MailboxKey) : Operation → Prop
  | .send v _ => s.registry.slot? .plain v = some k ∨
      s.registry.slot? .plain v = none ∧ s.registry.slot? .tls v = some k
  | .broadcast _ => ∃ l v, s.registry.slot? l v = some k
  | .pingAll => ∃ l v, s.registry.slot? l v = some k
  | _ => False

lemma Addresses.slot (hk : s.Addresses k op) : ∃ l v, s.registry.slot? l v = some k := by
  cases op with
  | send v o =>
    rcases hk with hp | ⟨-, ht⟩
    · exact ⟨.plain, v, hp⟩
    · exact ⟨.tls, v, ht⟩
  | broadcast | pingAll => exact hk
  | create | add | remove | receive | abandon => exact hk.elim

lemma mem_targets : k ∈ s.targets op ↔ s.Addresses k op := by
  cases op with
  | send v o => rw [targets, Option.mem_toList, Addresses, Registry.find?_eq_some]
  | broadcast | pingAll => exact Registry.mem_mailboxes
  | create | add | remove | receive | abandon => exact iff_of_false List.not_mem_nil id

lemma Sound.succeeds_iff (hs : s.Sound) (ho : op.order? = some o) :
    s.Succeeds op k ↔ s.Addresses k op ∧ s.post.Admits k := by
  rw [Succeeds, (perform_call ho).1, Post.mem_zip_putAll hs.nodup_targets, mem_targets]

lemma Sound.waiting_call (hs : s.Sound) (ho : op.order? = some o) :
    (s.perform op).2.post.waiting k =
      s.post.waiting k ++ if s.Succeeds op k then [o] else [] := by
  rw [(perform_call ho).2]
  change (s.post.putAll o (s.targets op)).2.waiting k = _
  by_cases hk : k ∈ s.targets op
  · have htaken : (s.post.put k o).1 = .taken ↔ s.Succeeds op k := by
      rw [Post.put_taken, hs.succeeds_iff ho, ← mem_targets]
      exact (and_iff_right hk).symm
    rw [Post.waiting_putAll hs.nodup_targets hk, Post.waiting_put]
    simp only [htaken]
  · have hnot : ¬ s.Succeeds op k := fun h => hk (mem_targets.mpr ((hs.succeeds_iff ho).mp h).1)
    rw [if_neg hnot, List.append_nil, Post.waiting, Post.box?_putAll hk, Post.waiting]

end Rendezvous.Office
