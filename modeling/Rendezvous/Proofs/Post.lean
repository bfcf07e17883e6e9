import Mathlib.Data.List.Nodup
import Rendezvous.Post

namespace Rendezvous

lemma Mailbox.put_taken {m : Mailbox} {o : Order} :
    (m.put o).1 = .taken ↔ m.abandoned = false ∧ m.orders.length < capacity := by
  rw [put]
  cases m.abandoned with
  | true => simp
  | false =>
    by_cases hroom : m.orders.length < capacity
    · simp [hroom]
    · simp [hroom]

lemma Mailbox.abandoned_put {m : Mailbox} {o : Order} : (m.put o).2.abandoned = m.abandoned := by
  rw [put]
  split
  · rfl
  · split <;> rfl

namespace Post

def waiting (p : Post) (k : MailboxKey) : List Order := ((p.box? k).map Mailbox.orders).getD []

def Admits (p : Post) (k : MailboxKey) : Prop :=
  p.isOpen k ∧ (p.waiting k).length < Mailbox.capacity

def Bounded (p : Post) : Prop := ∀ k, (p.waiting k).length ≤ Mailbox.capacity

def Ordered (p : Post) : Prop := ∀ k m, p.box? k = some m → k < p.fresh

variable {p : Post} {j k : MailboxKey} {o : Order} {ks : List MailboxKey}

lemma isOpen_eq : p.isOpen k = (p.box? k).any (!·.abandoned) := by
  rw [isOpen]
  cases p.box? k <;> rfl

lemma box?_insert {m : Mailbox} {fresh : MailboxKey} :
    (Post.mk (p.boxes.insert k m) fresh).box? j = if k = j then some m else p.box? j := by
  simp [box?, Std.TreeMap.getElem?_insert]

lemma box?_eq_ite (hk : p.box? k = none) : p.box? j = if k = j then none else p.box? j := by
  split
  · rename_i hj
    exact hj ▸ hk
  · rfl

lemma box?_put : (p.put k o).2.box? j =
    if k = j then (p.box? k).map fun m => (m.put o).2 else p.box? j := by
  rw [put]
  cases hk : p.box? k with
  | none => exact box?_eq_ite hk
  | some m => exact box?_insert

lemma box?_take : (p.take k).2.box? j =
    if k = j then (p.box? k).map fun m => m.take.2 else p.box? j := by
  rw [take]
  cases hk : p.box? k with
  | none => exact box?_eq_ite hk
  | some m => exact box?_insert

lemma box?_abandon : (p.abandon k).box? j =
    if k = j then (p.box? k).map Mailbox.abandon else p.box? j := by
  by_cases hj : k = j
  · subst hj
    simp [abandon, box?]
  · simp [abandon, box?, Std.TreeMap.getElem?_modify, hj]

lemma box?_create : p.create.2.box? j = if p.fresh = j then some .empty else p.box? j :=
  box?_insert

lemma put_taken : (p.put k o).1 = .taken ↔ p.Admits k := by
  rw [put, Admits, isOpen_eq, waiting]
  cases p.box? k with
  | none => simp
  | some m => simpa using Mailbox.put_taken

lemma put_taken_congr {q : Post} {o' : Order} (h : q.box? k = p.box? k) :
    (q.put k o').1 = .taken ↔ (p.put k o).1 = .taken := by
  rw [put_taken, put_taken, Admits, Admits, isOpen_eq, isOpen_eq, waiting, waiting, h]

lemma isOpen_put : (p.put k o).2.isOpen j = p.isOpen j := by
  rw [isOpen_eq, isOpen_eq, box?_put]
  split
  · rename_i hj
    subst hj
    cases p.box? k with
    | none => rfl
    | some m => exact congrArg (!·) Mailbox.abandoned_put
  · rfl

lemma waiting_put_taken (h : (p.put k o).1 = .taken) :
    (p.put k o).2.waiting k = p.waiting k ++ [o] := by
  rw [put] at h
  rw [waiting, box?_put, if_pos rfl, waiting]
  cases hk : p.box? k with
  | none =>
    rw [hk] at h
    cases h
  | some m =>
    rw [hk] at h
    exact Mailbox.orders_put h

lemma put_eq_self (h : (p.put k o).1 ≠ .taken) : (p.put k o).2.box? j = p.box? j := by
  rw [box?_put]
  split
  · rename_i hj
    subst hj
    rw [put] at h
    cases hk : p.box? k with
    | none => rfl
    | some m =>
      rw [hk] at h
      exact congrArg some (Mailbox.put_eq_self h)
  · rfl

lemma waiting_put_of_ne (h : k ≠ j) : (p.put k o).2.waiting j = p.waiting j := by
  rw [waiting, box?_put, if_neg h, waiting]

lemma waiting_put : (p.put k o).2.waiting k =
    p.waiting k ++ if (p.put k o).1 = .taken then [o] else [] := by
  by_cases h : (p.put k o).1 = .taken
  · rw [if_pos h, waiting_put_taken h]
  · rw [if_neg h, waiting, put_eq_self h, waiting, List.append_nil]

lemma take_fst : (p.take k).1 = (p.waiting k).head? := by
  rw [take, waiting]
  cases p.box? k with
  | none => rfl
  | some m =>
    obtain ⟨_ | _, _⟩ := m
    · rfl
    · rfl

lemma waiting_take : (p.take k).2.waiting j =
    if k = j then (p.waiting k).tail else p.waiting j := by
  rw [waiting, box?_take]
  by_cases hj : k = j
  · rw [if_pos hj, if_pos hj, waiting]
    cases p.box? k with
    | none => rfl
    | some m =>
      obtain ⟨_ | _, _⟩ := m
      · rfl
      · rfl
  · rw [if_neg hj, if_neg hj, waiting]

lemma take_append : (p.take k).1.toList ++ (p.take k).2.waiting k = p.waiting k := by
  rw [take_fst, waiting_take, if_pos rfl]
  cases p.waiting k <;> rfl

lemma isOpen_take : (p.take k).2.isOpen j = p.isOpen j := by
  rw [isOpen_eq, isOpen_eq, box?_take]
  split
  · rename_i hj
    subst hj
    cases p.box? k with
    | none => rfl
    | some m =>
      obtain ⟨_ | _, _⟩ := m
      · rfl
      · rfl
  · rfl

lemma waiting_abandon : (p.abandon k).waiting j = if k = j then [] else p.waiting j := by
  rw [waiting, box?_abandon]
  by_cases hj : k = j
  · rw [if_pos hj, if_pos hj]
    cases p.box? k <;> rfl
  · rw [if_neg hj, if_neg hj, waiting]

lemma isOpen_abandon : (p.abandon k).isOpen j = (p.isOpen j && decide (k ≠ j)) := by
  rw [isOpen_eq, isOpen_eq, box?_abandon]
  by_cases hj : k = j
  · subst hj
    rw [if_pos rfl]
    cases p.box? k <;> simp [Mailbox.abandon]
  · simp [hj]

lemma isOpen_create : p.create.2.isOpen j = (decide (p.fresh = j) || p.isOpen j) := by
  rw [isOpen_eq, isOpen_eq, box?_create]
  split
  · rename_i hj
    simp [hj, Mailbox.empty]
  · rename_i hj
    simp [hj]

lemma Ordered.box?_of_le (h : p.Ordered) (hk : p.fresh ≤ k) : p.box? k = none := by
  cases hm : p.box? k with
  | none => rfl
  | some m => exact absurd (h k m hm) (Nat.not_lt_of_le hk)

lemma Ordered.waiting_create (h : p.Ordered) : p.create.2.waiting j = p.waiting j := by
  rw [waiting, box?_create, waiting]
  split
  · rename_i hj
    rw [h.box?_of_le (Nat.le_of_eq hj)]
    rfl
  · rfl

lemma Ordered.of_isSome {q : Post} (h : p.Ordered) (hfresh : q.fresh = p.fresh)
    (hbox : ∀ k, (q.box? k).isSome → (p.box? k).isSome) : q.Ordered := by
  intro k m hk
  obtain ⟨n, hn⟩ := Option.isSome_iff_exists.mp (hbox k (by rw [hk]; rfl))
  exact hfresh ▸ h k n hn

lemma fresh_put : (p.put k o).2.fresh = p.fresh := by
  rw [put]
  cases p.box? k <;> rfl

lemma fresh_take : (p.take k).2.fresh = p.fresh := by
  rw [take]
  cases p.box? k <;> rfl

lemma Ordered.put (h : p.Ordered) : (p.put k o).2.Ordered := by
  refine h.of_isSome fresh_put fun j hj => ?_
  rw [box?_put] at hj
  split at hj
  · rename_i he
    subst he
    simpa using hj
  · exact hj

lemma Ordered.take (h : p.Ordered) : (p.take k).2.Ordered := by
  refine h.of_isSome fresh_take fun j hj => ?_
  rw [box?_take] at hj
  split at hj
  · rename_i he
    subst he
    simpa using hj
  · exact hj

lemma Ordered.abandon (h : p.Ordered) : (p.abandon k).Ordered := by
  refine h.of_isSome rfl fun j hj => ?_
  rw [box?_abandon] at hj
  split at hj
  · rename_i he
    subst he
    simpa using hj
  · exact hj

lemma Ordered.create (h : p.Ordered) : p.create.2.Ordered := by
  intro j m hj
  rw [box?_create] at hj
  split at hj
  · rename_i he
    exact he ▸ Nat.lt_succ_self _
  · exact Nat.lt_succ_of_lt (h j m hj)

lemma Bounded.put (h : p.Bounded) : (p.put k o).2.Bounded := by
  intro j
  by_cases hj : k = j
  · subst hj
    rw [waiting_put]
    split
    · rename_i htaken
      have hroom := (put_taken.mp htaken).2
      rw [List.length_append]
      exact hroom
    · rw [List.append_nil]
      exact h k
  · rw [waiting_put_of_ne hj]
    exact h j

lemma Bounded.take (h : p.Bounded) : (p.take k).2.Bounded := by
  intro j
  rw [waiting_take]
  split
  · have hk := h k
    rw [List.length_tail]
    omega
  · exact h j

lemma Bounded.abandon (h : p.Bounded) : (p.abandon k).Bounded := by
  intro j
  rw [waiting_abandon]
  split
  · exact Nat.zero_le _
  · exact h j

lemma send_taken {r : Registry} {v : ConnectionId} :
    (p.send r v o).1 = .taken ↔ ∃ k, r.find? v = some k ∧ p.Admits k := by
  rw [send]
  cases r.find? v with
  | none => simp
  | some k => simpa using put_taken

lemma isConnected_of_send {r : Registry} {v : ConnectionId} (h : (p.send r v o).1 = .taken) :
    p.isConnected r v := by
  obtain ⟨k, hk, hopen, -⟩ := send_taken.mp h
  rw [isConnected, hk]
  exact hopen

lemma putAll_cons : p.putAll o (k :: ks) =
    ((p.put k o).1 :: ((p.put k o).2.putAll o ks).1, ((p.put k o).2.putAll o ks).2) := rfl

lemma putAll_keeps {P : Post → Prop} (hput : ∀ q k, P q → P (q.put k o).2) (h : P p) :
    P (p.putAll o ks).2 := by
  induction ks generalizing p with
  | nil => exact h
  | cons k ks ih => exact ih (hput p k h)

lemma box?_putAll (h : j ∉ ks) : (p.putAll o ks).2.box? j = p.box? j := by
  induction ks generalizing p with
  | nil => rfl
  | cons k ks ih =>
    rw [List.mem_cons, not_or] at h
    rw [putAll_cons, ih h.2, box?_put, if_neg (Ne.symm h.1)]

lemma admits_put_of_ne (h : k ≠ j) : (p.put k o).2.Admits j ↔ p.Admits j := by
  rw [Admits, Admits, isOpen_put, waiting_put_of_ne h]

lemma mem_zip_putAll (h : ks.Nodup) :
    (k, Receipt.taken) ∈ ks.zip (p.putAll o ks).1 ↔ k ∈ ks ∧ p.Admits k := by
  induction ks generalizing p with
  | nil => simp
  | cons i ks ih =>
    rw [List.nodup_cons] at h
    rw [putAll_cons, List.zip_cons_cons, List.mem_cons, ih h.2, List.mem_cons]
    by_cases hi : k = i
    · subst hi
      have htaken := put_taken (p := p) (k := k) (o := o)
      simpa [h.1, eq_comm] using htaken
    · simp [hi, admits_put_of_ne (Ne.symm hi)]

lemma waiting_putAll (h : ks.Nodup) (hk : k ∈ ks) :
    (p.putAll o ks).2.waiting k = (p.put k o).2.waiting k := by
  induction ks generalizing p with
  | nil => exact absurd hk List.not_mem_nil
  | cons i ks ih =>
    rw [List.nodup_cons] at h
    rw [putAll_cons]
    rcases List.mem_cons.mp hk with rfl | hk
    · rw [waiting, box?_putAll h.1, waiting]
    · have hne : i ≠ k := fun he => h.1 (he ▸ hk)
      have htaken : ((p.put i o).2.put k o).1 = .taken ↔ (p.put k o).1 = .taken :=
        put_taken_congr (by rw [box?_put, if_neg hne])
      rw [ih h.2 hk, waiting_put, waiting_put, waiting_put_of_ne hne]
      simp only [htaken]

end Post

end Rendezvous
