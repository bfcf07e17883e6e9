import Rendezvous.Proofs.Peer.FreshNumber

/-! The search for a number as it goes, without a bound on its turns. It ends at the first number on the
circle that nobody has. -/

namespace Rendezvous

namespace PeerId

def ahead (p q : PeerId) : ℕ := ((q - p) % supply).toNat

variable {p q : PeerId}

lemma ahead_lt : ahead p q < supply := by
  simp only [ahead, supply, PeerId]
  omega

lemma iterate_ahead (hp : 0 ≤ p ∧ p ≤ greatest) (hq : 0 ≤ q ∧ q ≤ greatest) :
    next^[ahead p q] p = q := by
  rw [iterate_next hp.1 hp.2]
  simp only [ahead, greatest, supply, PeerId] at *
  omega

lemma ahead_iterate (hp : 0 ≤ p ∧ p ≤ greatest) {k : ℕ} (hk : k < supply) :
    ahead p (next^[k] p) = k := by
  rw [iterate_next hp.1 hp.2]
  simp only [ahead, supply, PeerId] at *
  omega

lemma ahead_next (hp : 0 ≤ p ∧ p ≤ greatest) (hq : 0 ≤ q ∧ q ≤ greatest) (hne : q ≠ p) :
    ahead p q = ahead p.next q + 1 := by
  rw [next_eq_mod hp.1 hp.2]
  simp only [ahead, greatest, supply, PeerId, ne_eq] at *
  omega

lemma ahead_next_self (hp : 0 ≤ p ∧ p ≤ greatest) : ahead p.next p + 1 = supply := by
  rw [next_eq_mod hp.1 hp.2]
  simp only [ahead, greatest, supply, PeerId] at *
  omega

end PeerId

namespace PeerTable

/-- From a candidate the search ends at another one, after so many turns in which it was taken. -/
inductive Search (t : PeerTable) : PeerId → ℕ → PeerId → Prop
  | found {c : PeerId} (h : c ∉ t.byId) : Search t c 0 c
  | next {c d : PeerId} {n : ℕ} (h : c ∈ t.byId) (hrest : Search t c.next n d) : Search t c (n + 1) d

variable {t : PeerTable} {c d e : PeerId} {m n : ℕ}

lemma search_iff : t.Search c n d ↔
    PeerId.next^[n] c = d ∧ (∀ j < n, PeerId.next^[j] c ∈ t.byId) ∧ d ∉ t.byId := by
  constructor
  · intro h
    induction h with
    | found h => exact ⟨rfl, fun j hj => absurd hj (Nat.not_lt_zero j), h⟩
    | next h _ ih =>
      obtain ⟨he, hbefore, hfree⟩ := ih
      refine ⟨he, fun j hj => ?_, hfree⟩
      cases j with
      | zero => exact h
      | succ j => exact hbefore j (Nat.lt_of_succ_lt_succ hj)
  · rintro ⟨he, hbefore, hfree⟩
    induction n generalizing c with
    | zero =>
      obtain rfl : c = d := he
      exact .found hfree
    | succ n ih =>
      exact .next (hbefore 0 (Nat.succ_pos n))
        (ih he fun j hj => hbefore (j + 1) (Nat.succ_lt_succ hj))

lemma Search.unique (h : t.Search c m d) (h' : t.Search c n e) : m = n ∧ d = e := by
  induction h generalizing n with
  | found hfree =>
    cases h' with
    | found _ => exact ⟨rfl, rfl⟩
    | next htaken _ => exact absurd htaken hfree
  | next htaken _ ih =>
    cases h' with
    | found hfree => exact absurd htaken hfree
    | next _ hrest =>
      obtain ⟨rfl, rfl⟩ := ih hrest
      exact ⟨rfl, rfl⟩

lemma HasFree.search (h : t.HasFree) : ∃ n ≤ t.size, t.Search t.firstCandidate n t.freshId := by
  obtain ⟨n, hn, he, hbefore, -⟩ := t.firstFree_spec t.size t.firstCandidate
  rw [← freshId_eq] at he
  exact ⟨n, hn, search_iff.mpr ⟨he.symm, hbefore, h.freshId_not_mem⟩⟩

lemma Search.valid (h : t.Search c n d) (hc : 0 ≤ c ∧ c ≤ PeerId.greatest) :
    0 ≤ d ∧ d ≤ PeerId.greatest := by
  induction h with
  | found _ => exact hc
  | next _ _ ih => exact ih (PeerId.next_valid _)

lemma Search.ahead_le (h : t.Search c n d) (hn : n < PeerId.supply)
    (hc : 0 ≤ c ∧ c ≤ PeerId.greatest) {x : PeerId} (hx : 0 ≤ x ∧ x ≤ PeerId.greatest)
    (hfree : x ∉ t.byId) : c.ahead d ≤ c.ahead x := by
  obtain ⟨rfl, hbefore, -⟩ := search_iff.mp h
  rw [PeerId.ahead_iterate hc hn]
  by_contra hlt
  have htaken := hbefore (c.ahead x) (Nat.lt_of_not_le hlt)
  rw [PeerId.iterate_ahead hc hx] at htaken
  exact hfree htaken

lemma Search.mem_of_between {last x : PeerId} (h : t.Search last.next n d) (hn : n < PeerId.supply)
    (hlast : 0 ≤ last ∧ last ≤ PeerId.greatest) (hx : 0 ≤ x ∧ x ≤ PeerId.greatest) (hne : x ≠ last)
    (hbetween : last.ahead x < last.ahead d ∨ d = last) : x ∈ t.byId := by
  by_contra hfree
  have hle := h.ahead_le hn last.next_valid hx hfree
  have hxnext := PeerId.ahead_next hlast hx hne
  by_cases hround : d = last
  · have hself := PeerId.ahead_next_self hlast
    have hlt : last.ahead x < PeerId.supply := PeerId.ahead_lt
    rw [hround] at hle
    omega
  · have hd : 0 ≤ d ∧ d ≤ PeerId.greatest := h.valid last.next_valid
    have hdnext := PeerId.ahead_next hlast hd hround
    have hlt : last.ahead x < last.ahead d := hbetween.resolve_right hround
    omega

lemma firstCandidate_of_mem {last : PeerId} (h : last ∈ t.lastId) : t.firstCandidate = last.next := by
  rw [firstCandidate, Option.mem_def.mp h]
  rfl

lemma firstCandidate_eq (h : ∀ last ∈ t.lastId, 0 ≤ last ∧ last ≤ PeerId.greatest) :
    t.firstCandidate = (t.lastId.map fun last : PeerId => (last + 1) % PeerId.supply).getD 0 := by
  cases hl : t.lastId with
  | none =>
    rw [firstCandidate, hl]
    rfl
  | some last =>
    have hvalid := h last hl
    rw [firstCandidate_of_mem hl, PeerId.next_eq_mod hvalid.1 hvalid.2]
    rfl

theorem takeId_first (t : PeerTable) (hsize : t.size < PeerId.supply)
    (hlast : ∀ last ∈ t.lastId, 0 ≤ last ∧ last ≤ PeerId.greatest) :
    let start : PeerId := (t.lastId.map fun last : PeerId => (last + 1) % PeerId.supply).getD 0
    let id := t.takeId.1
    (∃ n ≤ t.size, t.Search start n id) ∧ (∀ n d, t.Search start n d → d = id) ∧
    0 ≤ id ∧ id ≤ PeerId.greatest ∧ id ∉ t.byId ∧
    (∀ x, 0 ≤ x → x ≤ PeerId.greatest → x ∉ t.byId → start.ahead id ≤ start.ahead x) ∧
    (∀ last ∈ t.lastId, ∀ x, 0 ≤ x → x ≤ PeerId.greatest → x ≠ last →
      last.ahead x < last.ahead id ∨ id = last → x ∈ t.byId) ∧
    t.takeId.2 = { t with lastId := some id } := by
  intro start id
  have hstart : t.firstCandidate = start := firstCandidate_eq hlast
  have hid : 0 ≤ id ∧ id ≤ PeerId.greatest := t.freshId_valid
  have hfree : t.HasFree := hasFree_of_size_lt hsize
  obtain ⟨n, hn, hsearch⟩ := hfree.search
  have hsupply : n < PeerId.supply := Nat.lt_of_le_of_lt hn hsize
  rw [← hstart]
  refine ⟨⟨n, hn, hsearch⟩, fun _ _ h => (h.unique hsearch).2, hid.1, hid.2, hfree.freshId_not_mem,
    fun x h₀ h hx => ?_, fun last hl x h₀ h hne hbetween => ?_, rfl⟩
  · exact hsearch.ahead_le hsupply t.firstCandidate_valid ⟨h₀, h⟩ hx
  · rw [firstCandidate_of_mem hl] at hsearch
    exact hsearch.mem_of_between hsupply (hlast last hl) ⟨h₀, h⟩ hne hbetween

theorem takeId_first_round :
    let t : PeerTable :=
      { ((PeerTable.empty.signIn "a" 1).2.signIn "b" 2).2 with lastId := some PeerId.greatest }
    t.size < PeerId.supply ∧ (∀ last ∈ t.lastId, 0 ≤ last ∧ last ≤ PeerId.greatest) ∧
      t.takeId.1 = 2 ∧ (∃ n ≤ t.size, t.Search 0 n 2) ∧
      ∀ x, 0 ≤ x → x ≤ PeerId.greatest → x ∉ t.byId → 2 ≤ PeerId.ahead 0 x := by
  intro t
  have hsize : t.size < PeerId.supply := by decide
  have hlast : ∀ last ∈ t.lastId, 0 ≤ last ∧ last ≤ PeerId.greatest := by
    rintro last ⟨⟩
    decide
  have hid : t.takeId.1 = 2 := by decide
  obtain ⟨hsearch, -, -, -, -, hfirst, -⟩ := takeId_first t hsize hlast
  rw [hid] at hsearch hfirst
  exact ⟨hsize, hlast, hid, hsearch, hfirst⟩

end PeerTable

end Rendezvous
