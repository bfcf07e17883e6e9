import Mathlib.Logic.Basic
import Rendezvous.Room.Delivery

namespace Rendezvous

variable {σ τ : Type}

structure Outlet.Simulates (o : Outlet σ) (q : Outlet τ) (R : σ → τ → Prop) : Prop where
  send : ∀ {s t}, R s t → ∀ v text,
    (o.send v text s).1 = (q.send v text t).1 ∧ R (o.send v text s).2 (q.send v text t).2
  isOpen : ∀ {s t}, R s t → ∀ v,
    (o.isOpen v s).1 = (q.isOpen v t).1 ∧ R (o.isOpen v s).2 (q.isOpen v t).2
  count : ∀ {s t}, R s t → (o.count s).1 = (q.count t).1 ∧ R (o.count s).2 (q.count t).2
  note : ∀ {s t}, R s t → ∀ e, R (o.note e s) (q.note e t)
  verbose : ∀ {s t}, R s t → o.verbose s = q.verbose t

namespace Outlet.Simulates

variable {o : Outlet σ} {q : Outlet τ} {R : σ → τ → Prop} {s : σ} {t : τ}

lemma noteAll (h : o.Simulates q R) (hs : R s t) (entries : List Log.Entry) :
    R (o.noteAll entries s) (q.noteAll entries t) := by
  induction entries generalizing s t with
  | nil => exact hs
  | cons e entries ih => exact ih (h.note hs e)

lemma post (h : o.Simulates q R) (hs : R s t) (v : ConnectionId) (l : Letter) :
    (o.post v l s).1 = (q.post v l t).1 ∧ R (o.post v l s).2 (q.post v l t).2 := by
  obtain ⟨htaken, hlater⟩ := h.send hs v l.text
  exact ⟨congrArg (Sent.mk v l) htaken, hlater⟩

lemma postLetters (h : o.Simulates q R) (hs : R s t) (letters : List (ConnectionId × Letter)) :
    (o.postLetters letters s).1 = (q.postLetters letters t).1 ∧
      R (o.postLetters letters s).2 (q.postLetters letters t).2 := by
  induction letters generalizing s t with
  | nil => exact ⟨rfl, hs⟩
  | cons l letters ih =>
    obtain ⟨hfirst, hs⟩ := h.post hs l.1 l.2
    obtain ⟨hothers, hs⟩ := ih hs
    exact ⟨congrArg₂ List.cons hfirst hothers, hs⟩

lemma postNotices (h : o.Simulates q R) (hs : R s t) (notices : List Notice) :
    (o.postNotices notices s).1 = (q.postNotices notices t).1 ∧
      R (o.postNotices notices s).2 (q.postNotices notices t).2 := by
  induction notices generalizing s t with
  | nil => exact ⟨rfl, hs⟩
  | cons n notices ih =>
    obtain ⟨hopen, hs⟩ := h.isOpen hs n.receiver
    rw [Outlet.postNotices, Outlet.postNotices]
    rcases ho : o.isOpen n.receiver s with ⟨b, s'⟩
    rcases hq : q.isOpen n.receiver t with ⟨c, t'⟩
    rw [ho, hq] at hopen hs
    obtain rfl : b = c := hopen
    cases b with
    | true =>
      obtain ⟨hfirst, hs⟩ := h.post hs n.receiver n.letter
      obtain ⟨hothers, hs⟩ := ih hs
      exact ⟨congrArg₂ List.cons hfirst hothers, hs⟩
    | false => exact ih (h.note hs _)

lemma marks (h : o.Simulates q R) (hs : R s t) (peers : List Peer) :
    (o.marks peers s).1 = (q.marks peers t).1 ∧ R (o.marks peers s).2 (q.marks peers t).2 := by
  induction peers generalizing s t with
  | nil => exact ⟨rfl, hs⟩
  | cons p peers ih =>
    obtain ⟨hopen, hs⟩ := h.isOpen hs p.connection
    obtain ⟨hothers, hs⟩ := ih hs
    exact ⟨congrArg₂ (fun b others => (p, b) :: others) hopen hothers, hs⟩

lemma noteListing (h : o.Simulates q R) (hs : R s t) (peers : List Peer) :
    R (o.noteListing peers s) (q.noteListing peers t) := by
  rw [Outlet.noteListing, Outlet.noteListing, h.verbose hs]
  split
  · obtain ⟨hcount, hs⟩ := h.count hs
    obtain ⟨hmarks, hs⟩ := h.marks hs peers
    dsimp only
    rw [hcount, hmarks]
    exact h.note hs _
  · exact hs

lemma deliver (h : o.Simulates q R) (hs : R s t) (out : Outbox) :
    (o.deliver out s).1 = (q.deliver out t).1 ∧ R (o.deliver out s).2 (q.deliver out t).2 := by
  obtain ⟨hletters, hs⟩ := h.postLetters hs out.letters
  obtain ⟨hnotices, hs⟩ := h.postNotices hs out.notices
  refine ⟨congrArg₂ _ hletters hnotices, ?_⟩
  rw [Outlet.deliver, Outlet.deliver]
  cases out.listing with
  | none => exact hs
  | some peers => exact h.noteListing hs peers

lemma act (h : o.Simulates q R) (hs : R s t) (ice : Ice) (room : Room) (e : Event) :
    (room.act ice o s e).2.1 = (room.act ice q t e).2.1 ∧
      R (room.act ice o s e).2.2 (room.act ice q t e).2.2 :=
  h.deliver (h.noteAll hs _) _

end Outlet.Simulates

structure Outlet.Lists {α β : Type} (o : Outlet σ) (list : σ → List α) (view : α → β)
    (seen : ConnectionId → String → β) : Prop where
  send : ∀ s v text, ∃ a, list (o.send v text s).2 = list s ++ [a] ∧ view a = seen v text
  isOpen : ∀ s v, list (o.isOpen v s).2 = list s
  count : ∀ s, list (o.count s).2 = list s
  note : ∀ s e, list (o.note e s) = list s

namespace Outlet.Lists

variable {α β : Type} {o : Outlet σ} {list : σ → List α} {view : α → β}
  {seen : ConnectionId → String → β} {s : σ}

def Sees (view : α → β) (seen : ConnectionId → String → β) (as : List α) (sent : List Sent) :
    Prop :=
  as.map view = sent.map fun m => seen m.receiver m.letter.text

lemma noteAll (h : o.Lists list view seen) (entries : List Log.Entry) :
    list (o.noteAll entries s) = list s := by
  induction entries generalizing s with
  | nil => rfl
  | cons e entries ih => exact ih.trans (h.note s e)

lemma post (h : o.Lists list view seen) (v : ConnectionId) (l : Letter) :
    ∃ a, list (o.post v l s).2 = list s ++ [a] ∧ view a = seen v l.text := h.send s v l.text

lemma postLetters (h : o.Lists list view seen) (letters : List (ConnectionId × Letter)) :
    ∃ as, list (o.postLetters letters s).2 = list s ++ as ∧
      Sees view seen as (o.postLetters letters s).1 := by
  induction letters generalizing s with
  | nil => exact ⟨[], (List.append_nil _).symm, rfl⟩
  | cons l letters ih =>
    obtain ⟨a, ha, hview⟩ := h.post (s := s) l.1 l.2
    obtain ⟨as, has, hviews⟩ := ih (s := (o.post l.1 l.2 s).2)
    refine ⟨a :: as, ?_, congrArg₂ List.cons hview hviews⟩
    rw [ha, List.append_assoc] at has
    exact has

lemma postNotices (h : o.Lists list view seen) (notices : List Notice) :
    ∃ as, list (o.postNotices notices s).2 = list s ++ as ∧
      Sees view seen as (o.postNotices notices s).1 := by
  induction notices generalizing s with
  | nil => exact ⟨[], (List.append_nil _).symm, rfl⟩
  | cons n notices ih =>
    have hopen := h.isOpen s n.receiver
    rw [Outlet.postNotices]
    rcases ho : o.isOpen n.receiver s with ⟨_ | _, t⟩
    all_goals
      rw [ho] at hopen
      change list t = list s at hopen
    · obtain ⟨as, has, hviews⟩ :=
        ih (s := o.note (Log.debug "Gegenseite nicht mehr verbunden") t)
      rw [h.note, hopen] at has
      exact ⟨as, has, hviews⟩
    · obtain ⟨a, ha, hview⟩ := h.post (s := t) n.receiver n.letter
      obtain ⟨as, has, hviews⟩ := ih (s := (o.post n.receiver n.letter t).2)
      refine ⟨a :: as, ?_, congrArg₂ List.cons hview hviews⟩
      rw [ha, hopen, List.append_assoc] at has
      exact has

lemma marks (h : o.Lists list view seen) (peers : List Peer) :
    list (o.marks peers s).2 = list s := by
  induction peers generalizing s with
  | nil => rfl
  | cons p peers ih => exact ih.trans (h.isOpen s p.connection)

lemma noteListing (h : o.Lists list view seen) (peers : List Peer) :
    list (o.noteListing peers s) = list s := by
  rw [Outlet.noteListing]
  split
  · exact (h.note _ _).trans ((h.marks peers).trans (h.count s))
  · rfl

lemma deliver (h : o.Lists list view seen) (out : Outbox) :
    ∃ as, list (o.deliver out s).2 = list s ++ as ∧ Sees view seen as (o.deliver out s).1 := by
  obtain ⟨as, has, hletters⟩ := h.postLetters (s := s) out.letters
  obtain ⟨bs, hbs, hnotices⟩ := h.postNotices (s := (o.postLetters out.letters s).2) out.notices
  rw [has, List.append_assoc] at hbs
  refine ⟨as ++ bs, ?_, List.map_append.trans
    ((congrArg₂ _ hletters hnotices).trans List.map_append.symm)⟩
  rw [Outlet.deliver]
  cases out.listing with
  | none => exact hbs
  | some peers => exact (h.noteListing peers).trans hbs

lemma act (h : o.Lists list view seen) (ice : Ice) (room : Room) (e : Event) :
    ∃ as, list (room.act ice o s e).2.2 = list s ++ as ∧
      Sees view seen as (room.act ice o s e).2.1 := by
  have hnoted : list (o.noteAll (room.step ice e).log s) = list s := h.noteAll _
  rw [← hnoted]
  exact h.deliver _

end Outlet.Lists

end Rendezvous
