import Rendezvous.Proofs.Peer.Consistency
import Rendezvous.Registry

namespace Rendezvous.Registry

def slot? (r : Registry) (l : Listener) (v : ConnectionId) : Option MailboxKey :=
  match l with
  | .plain => r.plain[v]?
  | .tls => r.tls[v]?

variable {r : Registry} {l m : Listener} {v w : ConnectionId} {h : Handle} {k : MailboxKey}

@[simp] lemma slot?_empty : Registry.empty.slot? l v = none := by
  cases l <;> simp [slot?, empty]

lemma slot?_add : (r.add l h).slot? m w =
    if l = m ∧ h.connection = w then some h.mailbox else r.slot? m w := by
  cases l <;> cases m <;> simp [add, slot?, Std.TreeMap.getElem?_insert]

lemma find?_eq : r.find? v = (r.slot? .plain v).or (r.slot? .tls v) := rfl

lemma find?_eq_some : r.find? v = some k ↔ r.slot? .plain v = some k ∨
    r.slot? .plain v = none ∧ r.slot? .tls v = some k := by
  rw [find?_eq, Option.or_eq_some_iff]

lemma isSome_slot? : (r.slot? l v).isSome = match l with
    | .plain => r.plain.contains v
    | .tls => r.tls.contains v := by
  cases l
  · exact Std.TreeMap.contains_eq_isSome_getElem?.symm
  · exact Std.TreeMap.contains_eq_isSome_getElem?.symm

lemma remove_fst : (r.remove v).1 =
    if (r.slot? .plain v).isSome then some .plain
    else if (r.slot? .tls v).isSome then some .tls else none := by
  rw [remove, isSome_slot?, isSome_slot?]
  cases r.plain.contains v <;> cases r.tls.contains v <;> rfl

lemma slot?_remove : (r.remove v).2.slot? m w =
    if (r.remove v).1 = some m ∧ v = w then none else r.slot? m w := by
  rw [remove_fst]
  simp only [remove, Std.TreeMap.contains_eq_isSome_getElem?, slot?]
  by_cases hp : r.plain[v]?.isSome
  · cases m <;> simp [hp, Std.TreeMap.getElem?_erase]
  · by_cases ht : r.tls[v]?.isSome
    · cases m <;> simp [hp, ht, Std.TreeMap.getElem?_erase]
    · simp [hp, ht]

lemma remove_eq_none : (r.remove v).1 = none ↔ r.find? v = none := by
  rw [remove_fst, find?_eq]
  cases r.slot? .plain v <;> cases r.slot? .tls v <;> simp

lemma remove_snd (h : (r.remove v).1 = none) : (r.remove v).2 = r := by
  rw [remove] at h ⊢
  cases hp : r.plain.contains v with
  | true => simp [hp] at h
  | false =>
    cases ht : r.tls.contains v with
    | true => simp [hp, ht] at h
    | false => rfl

lemma find?_of_remove (h : (r.remove v).1 = some l) : r.find? v = r.slot? l v := by
  rw [remove_fst] at h
  rw [find?_eq]
  cases hp : r.slot? .plain v with
  | none =>
    rw [hp] at h
    cases ht : r.slot? .tls v with
    | none => simp [ht] at h
    | some k =>
      obtain rfl : Listener.tls = l := by simpa [ht] using h
      simp [ht]
  | some k =>
    obtain rfl : Listener.plain = l := by simpa [hp] using h
    simp [hp]

lemma mem_mailboxes : k ∈ r.mailboxes ↔ ∃ l v, r.slot? l v = some k := by
  have hvalues (t : Std.TreeMap ConnectionId MailboxKey) :
      k ∈ t.values ↔ ∃ v : ConnectionId, t[v]? = some k := by
    simp only [values_eq_map_toList, List.mem_map, Prod.exists,
      Std.TreeMap.mem_toList_iff_getElem?_eq_some, exists_eq_right]
  rw [mailboxes, List.mem_append, hvalues, hvalues]
  constructor
  · rintro (⟨v, hv⟩ | ⟨v, hv⟩)
    · exact ⟨.plain, v, hv⟩
    · exact ⟨.tls, v, hv⟩
  · rintro ⟨_ | _, v, hv⟩
    · exact Or.inl ⟨v, hv⟩
    · exact Or.inr ⟨v, hv⟩

lemma nodup_mailboxes (hr : ∀ l v m w k, r.slot? l v = some k → r.slot? m w = some k →
    l = m ∧ v = w) : r.mailboxes.Nodup := by
  have hvalues (t : Std.TreeMap ConnectionId MailboxKey)
      (ht : ∀ (v w : ConnectionId) (k : MailboxKey), t[v]? = some k → t[w]? = some k → v = w) :
      t.values.Nodup := by
    rw [values_eq_map_toList, List.Nodup, List.pairwise_map]
    refine (Std.TreeMap.distinct_keys_toList (t := t)).imp_of_mem fun {a b} ha hb hab he => ?_
    rw [Std.TreeMap.mem_toList_iff_getElem?_eq_some] at ha hb
    exact hab (by rw [ht a.1 b.1 a.2 ha (he ▸ hb)]; exact Std.ReflCmp.compare_self)
  rw [mailboxes, List.nodup_append]
  refine ⟨hvalues _ fun v w k hv hw => (hr .plain v .plain w k hv hw).2,
    hvalues _ fun v w k hv hw => (hr .tls v .tls w k hv hw).2, fun k hp j ht he => ?_⟩
  subst he
  simp only [values_eq_map_toList, List.mem_map, Prod.exists,
    Std.TreeMap.mem_toList_iff_getElem?_eq_some, exists_eq_right] at hp ht
  obtain ⟨v, hv⟩ := hp
  obtain ⟨w, hw⟩ := ht
  exact absurd (hr .plain v .tls w k hv hw).1 (by decide)

lemma holds_iff : r.holds k ↔ ∃ l v, r.slot? l v = some k := by
  rw [holds, List.contains_iff_mem, mem_mailboxes]

lemma size_erase_of_contains {t : Std.TreeMap ConnectionId MailboxKey} (h : t.contains v) :
    (t.erase v).size + 1 = t.size := by
  have hfull : t.isEmpty = false := Std.TreeMap.isEmpty_eq_false_iff_exists_mem.mpr ⟨v, h⟩
  rw [Std.TreeMap.isEmpty_eq_size_eq_zero, beq_eq_false_iff_ne] at hfull
  rw [Std.TreeMap.size_erase, if_pos h]
  omega

lemma count_add (hl : r.slot? l h.connection = none) : (r.add l h).count = r.count + 1 := by
  have hnone : (r.slot? l h.connection).isSome = false := by rw [hl]; rfl
  rw [isSome_slot?] at hnone
  cases l with
  | plain =>
    have hsize : (r.add .plain h).plain.size = r.plain.size + 1 := by
      simp only [add, Std.TreeMap.size_insert, hnone]
      rfl
    change (r.add .plain h).plain.size + r.tls.size = r.plain.size + r.tls.size + 1
    omega
  | tls =>
    have hsize : (r.add .tls h).tls.size = r.tls.size + 1 := by
      simp only [add, Std.TreeMap.size_insert, hnone]
      rfl
    change r.plain.size + (r.add .tls h).tls.size = r.plain.size + r.tls.size + 1
    omega

lemma count_remove (hl : (r.remove v).1.isSome) : (r.remove v).2.count + 1 = r.count := by
  rw [remove] at hl ⊢
  by_cases hp : r.plain.contains v
  · have hsize := size_erase_of_contains hp
    rw [if_pos hp]
    change (r.plain.erase v).size + r.tls.size + 1 = r.plain.size + r.tls.size
    omega
  · rw [if_neg hp] at hl ⊢
    by_cases ht : r.tls.contains v
    · have hsize := size_erase_of_contains ht
      rw [if_pos ht]
      change r.plain.size + (r.tls.erase v).size + 1 = r.plain.size + r.tls.size
      omega
    · rw [if_neg ht] at hl
      exact absurd hl Bool.false_ne_true

end Rendezvous.Registry
