import Rendezvous.Exchange
import Rendezvous.Proofs.Post

namespace Rendezvous

def Sent.address (m : Sent) : ConnectionId × Letter := (m.receiver, m.letter)

def Notice.address (n : Notice) : ConnectionId × Letter := (n.receiver, n.letter)

namespace Outlet

variable {σ : Type} (o : Outlet σ)

def asked : List Notice → σ → List (ConnectionId × Bool)
  | [], _ => []
  | n :: rest, s =>
    match o.isOpen n.receiver s with
    | (true, s) => (n.receiver, true) :: asked rest (o.post n.receiver n.letter s).2
    | (false, s) =>
      (n.receiver, false) :: asked rest (o.note (Log.debug "Gegenseite nicht mehr verbunden") s)

/-- While the outlet delivers what a step leaves, it finds the connections of `up` open and no
others, as far as it is asked. -/
def Finds (turn : Turn) (s : σ) (up : ConnectionId → Bool) : Prop :=
  ∀ a ∈ o.asked turn.outbox.notices (o.postLetters turn.outbox.letters (o.noteAll turn.log s)).2,
    up a.1 = a.2

variable {o} {s : σ} {up : ConnectionId → Bool}

lemma postLetters_fst {letters : List (ConnectionId × Letter)} :
    (o.postLetters letters s).1.map Sent.address = letters := by
  induction letters generalizing s with
  | nil => rfl
  | cons l rest ih => exact congrArg (l :: ·) ih

lemma asked_fst {notices : List Notice} :
    (o.asked notices s).map Prod.fst = notices.map Notice.receiver := by
  induction notices generalizing s with
  | nil => rfl
  | cons n rest ih =>
    rw [asked]
    rcases o.isOpen n.receiver s with ⟨_ | _, t⟩
    · exact congrArg (n.receiver :: ·) ih
    · exact congrArg (n.receiver :: ·) ih

lemma postNotices_fst {notices : List Notice} (h : ∀ a ∈ o.asked notices s, up a.1 = a.2) :
    (o.postNotices notices s).1.map Sent.address =
      (notices.filter fun n => up n.receiver).map Notice.address := by
  induction notices generalizing s with
  | nil => rfl
  | cons n rest ih =>
    rw [asked] at h
    rw [postNotices]
    rcases ho : o.isOpen n.receiver s with ⟨_ | _, t⟩
    · rw [ho] at h
      have hdown : up n.receiver = false := h _ List.mem_cons_self
      have hrest := ih fun a ha => h a (List.mem_cons_of_mem _ ha)
      rw [List.filter_cons_of_neg (by simp [hdown])]
      exact hrest
    · rw [ho] at h
      have hopen : up n.receiver = true := h _ List.mem_cons_self
      have hrest := ih fun a ha => h a (List.mem_cons_of_mem _ ha)
      rw [List.filter_cons_of_pos (p := fun n : Notice => up n.receiver) hopen]
      exact congrArg (n.address :: ·) hrest

lemma mem_postNotices {notices : List Notice} {m : Sent} (h : m ∈ (o.postNotices notices s).1) :
    ∃ n ∈ notices, m.address = n.address := by
  induction notices generalizing s with
  | nil => exact absurd h List.not_mem_nil
  | cons n rest ih =>
    rw [postNotices] at h
    have hrest {t : σ} (hm : m ∈ (o.postNotices rest t).1) :
        ∃ n' ∈ n :: rest, m.address = n'.address := by
      obtain ⟨n', hn', ha⟩ := ih hm
      exact ⟨n', List.mem_cons_of_mem _ hn', ha⟩
    rcases ho : o.isOpen n.receiver s with ⟨_ | _, t⟩
    · rw [ho] at h
      exact hrest h
    · rw [ho] at h
      rcases List.mem_cons.mp h with rfl | hm
      · exact ⟨n, List.mem_cons_self, rfl⟩
      · exact hrest hm

lemma exists_eq_of_nodup {l : List (ConnectionId × Bool)} (h : (l.map Prod.fst).Nodup) :
    ∃ up : ConnectionId → Bool, ∀ a ∈ l, up a.1 = a.2 := by
  induction l with
  | nil => exact ⟨fun _ => false, List.forall_mem_nil _⟩
  | cons a l ih =>
    rw [List.map_cons, List.nodup_cons] at h
    obtain ⟨up, hup⟩ := ih h.2
    refine ⟨fun v => if v = a.1 then a.2 else up v, fun b hb => ?_⟩
    rcases List.mem_cons.mp hb with rfl | hb
    · exact if_pos rfl
    · have hne : b.1 ≠ a.1 := fun he => h.1 (he ▸ List.mem_map_of_mem hb)
      exact (if_neg hne).trans (hup b hb)

lemma exists_finds {turn : Turn} (h : (turn.outbox.notices.map Notice.receiver).Nodup) :
    ∃ up, o.Finds turn s up := exists_eq_of_nodup (by rwa [asked_fst])

end Outlet

namespace Exchange

variable {r : Registry} {x : Exchange} {v w : ConnectionId}

lemma post_noteAll {entries : List Log.Entry} : ((outlet r).noteAll entries x).post = x.post := by
  unfold Outlet.noteAll
  induction entries generalizing x with
  | nil => rfl
  | cons e entries ih => exact ih

lemma isConnected_post {letter : Letter} :
    ((outlet r).post v letter x).2.post.isConnected r w = x.post.isConnected r w := by
  have hsend : ((outlet r).post v letter x).2.post = (x.post.send r v (.text letter.text)).2 :=
    post_noteAll (r := r)
  rw [hsend, Post.send]
  cases r.find? v with
  | none => rfl
  | some k =>
    unfold Post.isConnected
    cases r.find? w with
    | none => rfl
    | some j => exact Post.isOpen_put

lemma isConnected_postLetters {letters : List (ConnectionId × Letter)} :
    ((outlet r).postLetters letters x).2.post.isConnected r w = x.post.isConnected r w := by
  induction letters generalizing x with
  | nil => rfl
  | cons l rest ih => exact ih.trans isConnected_post

lemma isConnected_of_asked {notices : List Notice} :
    ∀ a ∈ (outlet r).asked notices x, x.post.isConnected r a.1 = a.2 := by
  induction notices generalizing x with
  | nil => exact List.forall_mem_nil _
  | cons n rest ih =>
    intro a ha
    rcases ho : (outlet r).isOpen n.receiver x with ⟨b, y⟩
    obtain ⟨hn, rfl⟩ := Prod.mk.inj ho
    rw [Outlet.asked, ho] at ha
    cases b with
    | true =>
      rcases List.mem_cons.mp ha with rfl | ha
      · exact hn
      · exact isConnected_post.symm.trans (ih a ha)
    | false =>
      rcases List.mem_cons.mp ha with rfl | ha
      · exact hn
      · have hrest := ih a ha
        exact hrest

lemma finds_outlet {turn : Turn} : (outlet r).Finds turn x (x.post.isConnected r) := by
  intro a ha
  have hbefore := isConnected_of_asked a ha
  rwa [isConnected_postLetters, post_noteAll] at hbefore

end Exchange

namespace Room

variable {σ : Type} {o : Outlet σ} {s : σ} {up : ConnectionId → Bool} {ice : Ice} {room : Room}
  {e : Event}

lemma act_sent (h : o.Finds (room.step ice e) s up) :
    (room.act ice o s e).2.1.map Sent.address = (room.step ice e).outbox.letters ++
      ((room.step ice e).outbox.notices.filter fun n => up n.receiver).map Notice.address := by
  rw [← Outlet.postNotices_fst h]
  exact List.map_append.trans (congrArg (· ++ _) Outlet.postLetters_fst)

lemma act_letter {v : ConnectionId} {letter : Letter}
    (h : (room.step ice e).outbox.letters = [(v, letter)]) (o : Outlet σ) (s : σ) : ∃ taken t,
    (room.act ice o s e).2.1 =
      ⟨v, letter, taken⟩ :: (o.postNotices (room.step ice e).outbox.notices t).1 := by
  let t := o.noteAll (room.step ice e).log s
  have hsent : (room.act ice o s e).2.1 = (o.postLetters (room.step ice e).outbox.letters t).1 ++
      (o.postNotices (room.step ice e).outbox.notices
        (o.postLetters (room.step ice e).outbox.letters t).2).1 := rfl
  rw [hsent, h]
  exact ⟨_, _, rfl⟩

end Room

end Rendezvous
