import Rendezvous.Proofs.Office.Account

/-! A broadcast to all handles. Neither the order in which it comes to them nor a handle that does not take
it makes a difference to the others. -/

namespace Rendezvous

namespace Post

def Same (p q : Post) : Prop := ∀ k, p.box? k = q.box? k

def sendEach (p : Post) (r : Registry) (o : Order) : List ConnectionId → List Receipt × Post
  | [] => ([], p)
  | v :: vs =>
    let (first, p) := p.send r v o
    let (others, p) := sendEach p r o vs
    (first :: others, p)

instance (p : Post) (k : MailboxKey) : Decidable (p.Admits k) := inferInstanceAs (Decidable (_ ∧ _))

variable {p q : Post} {r : Registry} {j k : MailboxKey} {ks js : List MailboxKey} {o : Order}
  {vs : List ConnectionId}

lemma put_fst : (p.put k o).1 = ((p.box? k).map fun m => (m.put o).1).getD .gone := by
  rw [put]
  cases p.box? k <;> rfl

lemma Same.put_fst (h : p.Same q) : (p.put k o).1 = (q.put k o).1 := by
  rw [Post.put_fst, Post.put_fst, h k]

lemma Same.put (h : p.Same q) : (p.put k o).2.Same (q.put k o).2 := by
  intro j
  rw [box?_put, box?_put, h k, h j]

lemma Same.putAll (h : p.Same q) :
    (p.putAll o ks).1 = (q.putAll o ks).1 ∧ (p.putAll o ks).2.Same (q.putAll o ks).2 := by
  induction ks generalizing p q with
  | nil => exact ⟨rfl, h⟩
  | cons k ks ih =>
    obtain ⟨hreceipts, hposts⟩ := ih (h.put (k := k) (o := o))
    rw [putAll_cons, putAll_cons, h.put_fst, hreceipts]
    exact ⟨rfl, hposts⟩

lemma put_put_fst (h : j ≠ k) : ((p.put j o).2.put k o).1 = (p.put k o).1 := by
  rw [put_fst, put_fst, box?_put, if_neg h]

lemma put_comm : ((p.put j o).2.put k o).2.Same ((p.put k o).2.put j o).2 := by
  by_cases h : j = k
  · subst h
    exact fun _ => rfl
  · intro i
    simp only [box?_put, if_neg h, if_neg (Ne.symm h)]
    split
    · rename_i hk
      rw [if_neg fun hj => h (hj.trans hk.symm)]
    · rfl

lemma putAll_perm (h : ks.Perm js) :
    (p.putAll o ks).1.Perm (p.putAll o js).1 ∧ (p.putAll o ks).2.Same (p.putAll o js).2 := by
  induction h generalizing p with
  | nil => exact ⟨.refl _, fun _ => rfl⟩
  | cons k _ ih =>
    obtain ⟨hreceipts, hposts⟩ := ih (p := (p.put k o).2)
    exact ⟨hreceipts.cons _, hposts⟩
  | swap j k ks =>
    have hcomm : ((p.put k o).2.put j o).2.Same ((p.put j o).2.put k o).2 := put_comm
    obtain ⟨hreceipts, hposts⟩ : (((p.put k o).2.put j o).2.putAll o ks).1 =
        (((p.put j o).2.put k o).2.putAll o ks).1 ∧ _ := hcomm.putAll
    refine ⟨?_, hposts⟩
    simp only [putAll_cons, hreceipts]
    by_cases h : j = k
    · subst h
      exact .refl _
    · rw [put_put_fst h, put_put_fst (Ne.symm h)]
      exact .swap _ _ _
  | trans _ _ ih₁ ih₂ =>
    obtain ⟨hreceipts₁, hposts₁⟩ := ih₁ (p := p)
    obtain ⟨hreceipts₂, hposts₂⟩ := ih₂ (p := p)
    exact ⟨hreceipts₁.trans hreceipts₂, fun k => (hposts₁ k).trans (hposts₂ k)⟩

lemma taken_putAll_perm (h : ks.Perm js) : taken (p.putAll o ks).1 = taken (p.putAll o js).1 :=
  (putAll_perm h).1.countP_eq _

lemma isOpen_putAll : (p.putAll o ks).2.isOpen k = p.isOpen k :=
  putAll_keeps (P := fun q => q.isOpen k = p.isOpen k) (fun _ _ h => isOpen_put.trans h) rfl

lemma waiting_putAll_of_nodup (h : ks.Nodup) : (p.putAll o ks).2.waiting k =
    p.waiting k ++ if k ∈ ks ∧ p.Admits k then [o] else [] := by
  by_cases hk : k ∈ ks
  · rw [waiting_putAll h hk, waiting_put]
    simp only [put_taken, hk, true_and]
  · rw [if_neg fun hand => hk hand.1, List.append_nil, waiting, box?_putAll hk, waiting]

lemma taken_putAll (h : ks.Nodup) :
    taken (p.putAll o ks).1 = ks.countP fun k => decide (p.Admits k) := by
  induction ks generalizing p with
  | nil => rfl
  | cons k ks ih =>
    rw [List.nodup_cons] at h
    have hfirst : (p.put k o).1.isTaken = decide (p.Admits k) := by
      rw [Bool.eq_iff_iff, decide_eq_true_iff, ← put_taken (o := o)]
      cases (p.put k o).1 <;> simp [Receipt.isTaken]
    have hrest : taken ((p.put k o).2.putAll o ks).1 = ks.countP fun j => decide (p.Admits j) := by
      rw [ih h.2]
      refine List.countP_congr fun j hj => ?_
      rw [decide_eq_true_iff, decide_eq_true_iff]
      exact admits_put_of_ne fun he => h.1 (he ▸ hj)
    rw [putAll_cons, taken, List.countP_cons, hfirst, List.countP_cons, ← hrest, taken]

lemma sendEach_eq (h : ∀ v ∈ vs, (r.find? v).isSome) :
    p.sendEach r o vs = p.putAll o (vs.filterMap r.find?) := by
  induction vs generalizing p with
  | nil => rfl
  | cons v vs ih =>
    rw [List.forall_mem_cons] at h
    obtain ⟨k, hk⟩ := Option.isSome_iff_exists.mp h.1
    rw [List.filterMap_cons_some hk, putAll_cons, sendEach, send, hk]
    simp only [ih h.2]

end Post

namespace Registry

variable {r : Registry} {v : ConnectionId} {vs : List ConnectionId}

lemma values_eq_filterMap {t : Std.TreeMap ConnectionId MailboxKey} {f : ConnectionId → Option MailboxKey}
    (h : ∀ v ∈ t, f v = t[v]?) : t.values = t.keys.filterMap f := by
  rw [values_eq_map_toList, ← Std.TreeMap.map_fst_toList_eq_keys, List.filterMap_map,
    ← List.filterMap_eq_map]
  refine List.filterMap_congr fun x hx => ?_
  have hx' : t[x.1]? = some x.2 := Std.TreeMap.mem_toList_iff_getElem?_eq_some.mp hx
  rw [Function.comp_apply, Function.comp_apply, h x.1 (Std.TreeMap.mem_iff_isSome_getElem?.mpr (hx' ▸ rfl)), hx']

lemma perm_keys (hr : ∀ v, r.slot? .plain v = none ∨ r.slot? .tls v = none) (hvs : vs.Nodup)
    (hmem : ∀ v, v ∈ vs ↔ (r.find? v).isSome) : vs.Perm (r.plain.keys ++ r.tls.keys) := by
  have hkeys : (r.plain.keys ++ r.tls.keys).Nodup := by
    rw [List.nodup_append']
    refine ⟨Std.TreeMap.nodup_keys, Std.TreeMap.nodup_keys, fun v hp ht => ?_⟩
    rw [Std.TreeMap.mem_keys, Std.TreeMap.mem_iff_isSome_getElem?] at hp ht
    rcases hr v with hnone | hnone
    · exact Option.isSome_iff_ne_none.mp hp hnone
    · exact Option.isSome_iff_ne_none.mp ht hnone
  refine (List.perm_ext_iff_of_nodup hvs hkeys).mpr fun v => ?_
  rw [hmem, List.mem_append, Std.TreeMap.mem_keys, Std.TreeMap.mem_keys,
    Std.TreeMap.mem_iff_isSome_getElem?, Std.TreeMap.mem_iff_isSome_getElem?, find?, Option.isSome_or,
    Bool.or_eq_true]

lemma perm_mailboxes (hr : ∀ v, r.slot? .plain v = none ∨ r.slot? .tls v = none) (hvs : vs.Nodup)
    (hmem : ∀ v, v ∈ vs ↔ (r.find? v).isSome) : (vs.filterMap r.find?).Perm r.mailboxes := by
  have hplain : ∀ v ∈ r.plain, r.find? v = r.plain[v]? := by
    intro v hv
    rw [find?, Option.or_of_isSome (Std.TreeMap.mem_iff_isSome_getElem?.mp hv)]
  have htls : ∀ v ∈ r.tls, r.find? v = r.tls[v]? := by
    intro v hv
    have hnone : r.plain[v]? = none := by
      apply (hr v).resolve_right
      exact Option.isSome_iff_ne_none.mp (Std.TreeMap.mem_iff_isSome_getElem?.mp hv)
    rw [find?, hnone, Option.none_or]
  rw [mailboxes, values_eq_filterMap hplain, values_eq_filterMap htls, ← List.filterMap_append]
  exact (perm_keys hr hvs hmem).filterMap _

end Registry

namespace Office

open Post (taken)

theorem broadcast_any_order (ops : List Operation) (o : Order) :
    let s := after ops
    let handles := s.registry.mailboxes
    let count := taken (s.post.broadcast s.registry o).1
    let post := (s.post.broadcast s.registry o).2
    (∀ ks, ks.Perm handles →
      taken (s.post.putAll o ks).1 = count ∧ (s.post.putAll o ks).2.Same post) ∧
    (∀ k, post.isOpen k = s.post.isOpen k ∧ post.waiting k =
      s.post.waiting k ++ if k ∈ handles ∧ s.post.Admits k then [o] else []) ∧
    count = handles.countP (fun k => post.waiting k = s.post.waiting k ++ [o]) ∧
    ((∀ v, s.registry.slot? .plain v = none ∨ s.registry.slot? .tls v = none) →
      ∀ vs, vs.Nodup → (∀ v, v ∈ vs ↔ (s.registry.find? v).isSome) →
        taken (s.post.sendEach s.registry o vs).1 = count ∧
          (s.post.sendEach s.registry o vs).2.Same post) := by
  intro s handles count post
  have hnodup : (s.targets (.broadcast o)).Nodup := sound_after.nodup_targets
  have hperm : ∀ ks, ks.Perm handles →
      taken (s.post.putAll o ks).1 = count ∧ (s.post.putAll o ks).2.Same post :=
    fun ks h => ⟨Post.taken_putAll_perm h, (Post.putAll_perm h).2⟩
  have hwaiting : ∀ k, post.waiting k =
      s.post.waiting k ++ if k ∈ handles ∧ s.post.Admits k then [o] else [] :=
    fun k => Post.waiting_putAll_of_nodup hnodup
  refine ⟨hperm, fun k => ⟨Post.isOpen_putAll, hwaiting k⟩, ?_, fun hr vs hvs hmem => ?_⟩
  · calc count = handles.countP fun k => decide (s.post.Admits k) := Post.taken_putAll hnodup
      _ = handles.countP fun k => decide (post.waiting k = s.post.waiting k ++ [o]) :=
        List.countP_congr fun k hk => by
          rw [decide_eq_true_iff, decide_eq_true_iff, hwaiting k]
          by_cases hadmits : s.post.Admits k <;> simp [hk, hadmits]
  · rw [Post.sendEach_eq fun v hv => (hmem v).mp hv]
    exact hperm _ (Registry.perm_mailboxes hr hvs hmem)

def mixed : List Operation :=
  [.create 1, .add .plain ⟨1, 0⟩, .create 2, .add .tls ⟨2, 1⟩, .create 3, .add .tls ⟨3, 2⟩, .abandon 1] ++
    List.replicate 256 (.send 3 .ping)

lemma registry_sends {s : Office} {v : ConnectionId} {o : Order} {n : ℕ} :
    ((List.replicate n (.send v o)).foldl (fun s op => (s.perform op).2) s).registry = s.registry := by
  induction n generalizing s with
  | zero => rfl
  | succ n ih => exact ih

theorem broadcast_any_order_mixed :
    let s := after mixed
    let a : Order := .text "a"
    [2, 0, 1].Perm s.registry.mailboxes ∧
      (∀ v, s.registry.slot? .plain v = none ∨ s.registry.slot? .tls v = none) ∧
      (∀ v, v ∈ [3, 1, 2] ↔ (s.registry.find? v).isSome) ∧
      taken (s.post.broadcast s.registry a).1 = 1 ∧
      taken (s.post.putAll a [2, 0, 1]).1 = 1 ∧
      taken (s.post.sendEach s.registry a [3, 1, 2]).1 = 1 := by
  intro s a
  have hregistry : s.registry =
      ((Registry.empty.add .plain ⟨1, 0⟩).add .tls ⟨2, 1⟩).add .tls ⟨3, 2⟩ := by
    rw [show s = after mixed from rfl, after, mixed, List.foldl_append, registry_sends]
    rfl
  have hhandles : [2, 0, 1].Perm s.registry.mailboxes := by
    rw [hregistry]
    decide
  have hslots : ∀ v, s.registry.slot? .plain v = none ∨ s.registry.slot? .tls v = none := by
    intro v
    rw [hregistry]
    by_cases hv : 1 = v
    · exact .inr (by simp [Registry.slot?_add, ← hv])
    · exact .inl (by simp [Registry.slot?_add, hv])
  have hmem : ∀ v, v ∈ [3, 1, 2] ↔ (s.registry.find? v).isSome := by
    intro v
    rw [hregistry, Registry.find?_eq]
    simp only [Registry.slot?_add, Registry.slot?_empty]
    grind
  have hcount : taken (s.post.broadcast s.registry a).1 = 1 := by decide +kernel
  obtain ⟨hperm, -, -, hsends⟩ := broadcast_any_order mixed a
  have hperm' := (hperm _ hhandles).1
  have hsends' := (hsends hslots [3, 1, 2] (by decide) hmem).1
  exact ⟨hhandles, hslots, hmem, hcount, hperm'.trans hcount, hsends'.trans hcount⟩

end Office

end Rendezvous
