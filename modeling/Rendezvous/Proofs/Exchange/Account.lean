import Rendezvous.Proofs.Exchange.Traffic
import Rendezvous.Proofs.Room.Delivery

namespace Rendezvous

namespace Post

variable {p q : Post} {k : MailboxKey}

lemma waiting_congr (h : q.box? k = p.box? k) : q.waiting k = p.waiting k := by
  rw [waiting, h, waiting]

lemma isOpen_congr (h : q.box? k = p.box? k) : q.isOpen k = p.isOpen k := by
  rw [isOpen_eq, h, isOpen_eq]

lemma admits_iff_any : p.Admits k ↔
    (p.box? k).any fun m => !m.abandoned && m.orders.length < Mailbox.capacity := by
  rw [Admits, isOpen_eq, waiting]
  cases p.box? k with
  | none => simp
  | some m => simp

end Post

namespace Traffic

def ofKey (k : MailboxKey) (xs : List (MailboxKey × Order)) : List Order :=
  (xs.filter fun x => x.1 = k).map Prod.snd

section OfKey

variable {j k : MailboxKey} {xs : List (MailboxKey × Order)} {os : List Order}

lemma ofKey_append_self : ofKey k (xs ++ os.map (k, ·)) = ofKey k xs ++ os := by
  have hall : (os.map ((k, ·) : Order → MailboxKey × Order)).filter (fun x => x.1 = k) =
      os.map (k, ·) := by
    rw [List.filter_eq_self]
    intro x hx
    obtain ⟨o, -, rfl⟩ := List.mem_map.mp hx
    exact decide_eq_true rfl
  rw [ofKey, List.filter_append, List.map_append, hall, List.map_map]
  exact congrArg (ofKey k xs ++ ·) (List.map_id os)

lemma ofKey_append_of_ne (h : j ≠ k) : ofKey k (xs ++ os.map (j, ·)) = ofKey k xs := by
  have hnone : (os.map ((j, ·) : Order → MailboxKey × Order)).filter (fun x => x.1 = k) = [] := by
    rw [List.filter_eq_nil_iff]
    intro x hx
    obtain ⟨o, -, rfl⟩ := List.mem_map.mp hx
    simpa using h
  rw [ofKey, List.filter_append, hnone, List.append_nil, ofKey]

end OfKey

def arrivedAt (k : MailboxKey) (t : Traffic) : List Dispatch :=
  t.dispatches.filter fun d => d.place = some k && d.arrives

/-- What the receiver has taken, and what is there for it to take. -/
def received (k : MailboxKey) (t : Traffic) : List Order := ofKey k t.taken ++ t.post.waiting k

structure Accounts (k : MailboxKey) (t : Traffic) : Prop where
  present : (t.post.box? k).isSome
  bounded : (t.post.waiting k).length ≤ Mailbox.capacity
  unlost : t.post.isOpen k → ofKey k t.left = []
  emptied : t.post.isOpen k = false → t.post.waiting k = []
  balance : ofKey k t.taken ++ ofKey k t.left ++ t.post.waiting k =
    (t.arrivedAt k).map Dispatch.order
  found : ∀ d ∈ t.dispatches, d.place = some k → ∃ m, d.found = some m ∧
    m.orders.length ≤ Mailbox.capacity ∧ (t.post.isOpen k → m.abandoned = false)

namespace Accounts

variable {k : MailboxKey} {t u : Traffic}

lemma of_other (h : t.Accounts k) (hbox : u.post.box? k = t.post.box? k)
    (htaken : ofKey k u.taken = ofKey k t.taken) (hleft : ofKey k u.left = ofKey k t.left)
    {ds : List Dispatch} (hdispatches : u.dispatches = t.dispatches ++ ds)
    (hds : ∀ d ∈ ds, d.place ≠ some k) : u.Accounts k where
  present := hbox ▸ h.present
  bounded := Post.waiting_congr hbox ▸ h.bounded
  unlost ho := hleft ▸ h.unlost (Post.isOpen_congr hbox ▸ ho)
  emptied ho := Post.waiting_congr hbox ▸ h.emptied (Post.isOpen_congr hbox ▸ ho)
  balance := by
    have hnone : ds.filter (fun d => d.place = some k && d.arrives) = [] :=
      List.filter_eq_nil_iff.mpr fun d hd => by simp [hds d hd]
    rw [htaken, hleft, Post.waiting_congr hbox, arrivedAt, hdispatches, List.filter_append, hnone,
      List.append_nil]
    exact h.balance
  found d hd hplace := by
    rw [hdispatches] at hd
    rw [Post.isOpen_congr hbox]
    exact h.found d ((List.mem_append.mp hd).resolve_right fun hd => hds d hd hplace) hplace

lemma of_same (h : t.Accounts k) (hbox : u.post.box? k = t.post.box? k)
    (htaken : ofKey k u.taken = ofKey k t.taken) (hleft : ofKey k u.left = ofKey k t.left)
    (hdispatches : u.dispatches = t.dispatches) : u.Accounts k :=
  h.of_other hbox htaken hleft (hdispatches.trans (List.append_nil _).symm) (List.forall_mem_nil _)

lemma take (h : t.Accounts k) (j : MailboxKey) : (t.clear (.take j)).Accounts k := by
  by_cases hj : j = k
  · subst hj
    have hpost : (t.clear (.take j)).post = (t.post.take j).2 := rfl
    have hopen : (t.clear (.take j)).post.isOpen j = t.post.isOpen j := Post.isOpen_take
    have hwaiting : (t.clear (.take j)).post.waiting j = (t.post.waiting j).tail := by
      rw [hpost, Post.waiting_take, if_pos rfl]
    refine ⟨?_, ?_, fun ho => h.unlost (hopen ▸ ho), fun ho => ?_, ?_, hopen ▸ h.found⟩
    · rw [hpost, Post.box?_take, if_pos rfl, Option.isSome_map]
      exact h.present
    · have hbefore := h.bounded
      rw [hwaiting, List.length_tail]
      omega
    · rw [hwaiting, h.emptied (hopen ▸ ho)]
      rfl
    · refine Eq.trans ?_ h.balance
      change ofKey j (t.taken ++ (t.post.take j).1.toList.map (j, ·)) ++ ofKey j t.left ++
        (t.post.take j).2.waiting j = ofKey j t.taken ++ ofKey j t.left ++ t.post.waiting j
      rw [ofKey_append_self]
      cases ho : t.post.isOpen j with
      | true =>
        rw [h.unlost ho, List.append_nil, List.append_nil, List.append_assoc, Post.take_append]
      | false =>
        -- What waited was left when the mailbox was given up, so that nothing is taken any more.
        have hnone : t.post.waiting j = [] := h.emptied ho
        rw [Post.take_fst, Post.waiting_take, if_pos rfl, hnone]
        simp
  · refine h.of_same ?_ (ofKey_append_of_ne hj) rfl rfl
    exact Post.box?_take.trans (if_neg hj)

lemma abandon (h : t.Accounts k) (j : MailboxKey) : (t.clear (.abandon j)).Accounts k := by
  by_cases hj : j = k
  · subst hj
    have hpost : (t.clear (.abandon j)).post = t.post.abandon j := rfl
    have hwaiting : (t.clear (.abandon j)).post.waiting j = [] := by
      rw [hpost, Post.waiting_abandon, if_pos rfl]
    have hshut : (t.clear (.abandon j)).post.isOpen j = false := by
      rw [hpost, Post.isOpen_abandon]
      simp
    refine ⟨?_, ?_, fun ho => ?_, fun _ => hwaiting, ?_, fun d hd hplace => ?_⟩
    · rw [hpost, Post.box?_abandon, if_pos rfl, Option.isSome_map]
      exact h.present
    · rw [hwaiting]
      exact Nat.zero_le _
    · rw [hshut] at ho
      cases ho
    · refine Eq.trans ?_ h.balance
      rw [hwaiting, List.append_nil]
      change ofKey j t.taken ++ ofKey j (t.left ++ (t.post.waiting j).map (j, ·)) = _
      rw [ofKey_append_self, ← List.append_assoc]
    · obtain ⟨m, hm, hbounded, -⟩ := h.found d hd hplace
      refine ⟨m, hm, hbounded, fun ho => ?_⟩
      rw [hshut] at ho
      cases ho
  · refine h.of_same ?_ rfl (ofKey_append_of_ne hj) rfl
    exact Post.box?_abandon.trans (if_neg hj)

lemma pause (h : t.Accounts k) : t.pause.Accounts k := by
  have hclear (now : List Clearing) {t : Traffic} (h : t.Accounts k) :
      (now.foldl clear t).Accounts k := by
    induction now generalizing t with
    | nil => exact h
    | cons c now ih =>
      cases c with
      | take j => exact ih (h.take j)
      | abandon j => exact ih (h.abandon j)
  rw [Traffic.pause]
  cases t.ahead with
  | nil => exact h
  | cons now later => exact hclear now (h.of_same rfl rfl rfl rfl)

lemma note (h : t.Accounts k) (e : Log.Entry) : (Traffic.note e t).Accounts k :=
  h.pause.of_same rfl rfl rfl rfl

lemma put (h : t.Accounts k) {d : Dispatch} (hplace : d.place = some k)
    (hfound : d.found = t.post.box? k) (hpost : u.post = (t.post.put k d.order).2)
    (htaken : u.taken = t.taken) (hleft : u.left = t.left)
    (hdispatches : u.dispatches = t.dispatches ++ [d]) : u.Accounts k := by
  have harrives : d.arrives ↔ (t.post.put k d.order).1 = .taken := by
    rw [Dispatch.arrives, hfound, Post.put_taken]
    exact Post.admits_iff_any.symm
  have hopen : u.post.isOpen k = t.post.isOpen k := by rw [hpost, Post.isOpen_put]
  have hwaiting : u.post.waiting k = t.post.waiting k ++ if d.arrives then [d.order] else [] := by
    rw [hpost, Post.waiting_put]
    simp only [harrives]
  refine ⟨?_, ?_, fun ho => hleft ▸ h.unlost (hopen ▸ ho), fun ho => ?_, ?_, ?_⟩
  · rw [hpost, Post.box?_put, if_pos rfl, Option.isSome_map]
    exact h.present
  · rw [hwaiting]
    split
    · rename_i hd
      rw [List.length_append]
      exact (Post.put_taken.mp (harrives.mp hd)).2
    · rw [List.append_nil]
      exact h.bounded
  · have hnot : ¬ d.arrives := by
      rw [harrives, Post.put_taken, Post.Admits, ← hopen, ho]
      simp
    rw [hwaiting, if_neg hnot, List.append_nil]
    exact h.emptied (hopen ▸ ho)
  · have hbefore : ofKey k t.taken ++ ofKey k t.left ++ t.post.waiting k =
        (t.arrivedAt k).map Dispatch.order := h.balance
    rw [htaken, hleft, hwaiting, ← List.append_assoc, hbefore, arrivedAt, arrivedAt, hdispatches,
      List.filter_append, List.map_append, List.filter_singleton, hplace, decide_eq_true rfl]
    cases d.arrives <;> rfl
  · intro d' hd' hplace'
    rw [hdispatches] at hd'
    rcases List.mem_append.mp hd' with hold | hnew
    · rw [hopen]
      exact h.found d' hold hplace'
    · obtain rfl := List.mem_singleton.mp hnew
      obtain ⟨m, hm⟩ := Option.isSome_iff_exists.mp h.present
      have hbounded := h.bounded
      rw [Post.waiting, hm] at hbounded
      refine ⟨m, hfound.trans hm, hbounded, fun ho => ?_⟩
      rw [hopen, Post.isOpen_eq, hm] at ho
      simpa using ho

lemma send (h : t.Accounts k) (r : Registry) (e : Event) (v : ConnectionId) (text : String) :
    (Traffic.send r e v text t).2.Accounts k := by
  let s := t.pause
  have hs : s.Accounts k := h.pause
  have hpost : (Traffic.send r e v text t).2.post = (s.post.send r v (.text text)).2 :=
    Exchange.post_noteAll (r := r)
  rw [Post.send] at hpost
  by_cases hk : r.find? v = some k
  · let d : Dispatch := ⟨e, v, text, r.find? v, (r.find? v).bind s.post.box?⟩
    have hfound : d.found = s.post.box? k := congrArg (·.bind s.post.box?) hk
    rw [hk] at hpost
    exact hs.put hk hfound hpost rfl rfl rfl
  · refine hs.of_other ?_ rfl rfl rfl fun d hd => ?_
    · rw [hpost]
      cases hj : r.find? v with
      | none => rfl
      | some j =>
        have hne : j ≠ k := fun he => hk (he ▸ hj)
        exact Post.box?_put.trans (if_neg hne)
    · rw [List.mem_singleton.mp hd]
      exact hk

lemma split (h : t.Accounts k) : ∃ arrived lost, t.arrivedAt k = arrived ++ lost ∧
    t.received k = arrived.map Dispatch.order ∧ ofKey k t.left = lost.map Dispatch.order := by
  have hbalance : t.received k ++ ofKey k t.left = (t.arrivedAt k).map Dispatch.order := by
    rw [← h.balance, received]
    cases ho : t.post.isOpen k with
    | true => rw [h.unlost ho, List.append_nil, List.append_nil]
    | false => rw [h.emptied ho, List.append_nil, List.append_nil]
  obtain ⟨arrived, lost, hsplit, harrived, hlost⟩ := List.map_eq_append_iff.mp hbalance.symm
  exact ⟨arrived, lost, hsplit, harrived.symm, hlost.symm⟩

end Accounts

structure Keeps (P : Traffic → Prop) : Prop where
  pause : ∀ {t}, P t → P t.pause
  send : ∀ {t}, P t → ∀ r e v text, P (Traffic.send r e v text t).2
  note : ∀ {t}, P t → ∀ e, P (Traffic.note e t)
  room : ∀ {t}, P t → ∀ room, P { t with exchange := { t.exchange with room := room } }

namespace Keeps

variable {P : Traffic → Prop}

lemma outlet (h : Keeps P) (r : Registry) (e : Event) :
    (Traffic.outlet r e).Simulates (Traffic.outlet r e) fun t u => t = u ∧ P t where
  send ht v text := by
    obtain ⟨rfl, ht⟩ := ht
    exact ⟨rfl, rfl, h.send ht r e v text⟩
  isOpen ht v := by
    obtain ⟨rfl, ht⟩ := ht
    exact ⟨rfl, rfl, h.pause ht⟩
  count ht := by
    obtain ⟨rfl, ht⟩ := ht
    exact ⟨rfl, rfl, h.pause ht⟩
  note ht e := by
    obtain ⟨rfl, ht⟩ := ht
    exact ⟨rfl, h.note ht e⟩
  verbose ht := by rw [ht.1]

lemma handler (h : Keeps P) (ice : Ice) :
    (Traffic.handler ice).Simulates (Traffic.handler ice) fun t u => t = u ∧ P t := by
  have hact {t : Traffic} (ht : P t) (r : Registry) (e : Event) : P (t.act ice r e).2 :=
    h.room ((h.outlet r e).act ⟨rfl, ht⟩ ice t.exchange.room e).2.2 _
  exact
    { text := fun ht r v s => ⟨ht.1 ▸ rfl, hact ht.2 r (.text v s)⟩
      closed := fun ht r v => ⟨ht.1 ▸ rfl, hact ht.2 r (.closed v)⟩
      note := fun ht e => ⟨ht.1 ▸ rfl, h.note ht.2 e⟩ }

lemma run (h : Keeps P) (ice : Ice) (q : ActionQueue) {w : Worker Traffic} (hw : P w.state) :
    P (Worker.run (Traffic.handler ice) q w).2.state := by
  have hstart : w.Agrees (fun t u => t = u ∧ P t) w := ⟨rfl, rfl, rfl, hw⟩
  exact (hstart.run (h.handler ice) q).state.2

end Keeps

variable {k : MailboxKey}

lemma keeps_accounts : Keeps fun t => t.Accounts k where
  pause := Accounts.pause
  send := Accounts.send
  note := Accounts.note
  room h _ := h.of_same rfl rfl rfl rfl

structure Held (k : MailboxKey) (t : Traffic) : Prop where
  isOpen : t.post.isOpen k
  ahead : ∀ now ∈ t.ahead, .abandon k ∉ now

namespace Held

variable {t : Traffic}

lemma clear (h : t.post.isOpen k) {c : Clearing} (hc : c ≠ .abandon k) :
    (t.clear c).post.isOpen k := by
  cases c with
  | take j => exact Post.isOpen_take.trans h
  | abandon j =>
    have hj : j ≠ k := fun hj => hc (congrArg Clearing.abandon hj)
    change (t.post.abandon j).isOpen k
    rw [Post.isOpen_congr (Post.box?_abandon.trans (if_neg hj))]
    exact h

lemma pause (h : t.Held k) : t.pause.Held k := by
  have hclear (now : List Clearing) {t : Traffic} (ht : t.post.isOpen k)
      (hnow : .abandon k ∉ now) :
      (now.foldl Traffic.clear t).post.isOpen k ∧ (now.foldl Traffic.clear t).ahead = t.ahead := by
    induction now generalizing t with
    | nil => exact ⟨ht, rfl⟩
    | cons c now ih =>
      obtain ⟨hc, hnow⟩ := not_or.mp (List.mem_cons.not.mp hnow)
      obtain ⟨hopen, hahead⟩ := ih (clear ht fun he => hc he.symm) hnow
      exact ⟨hopen, hahead.trans (by cases c <;> rfl)⟩
  rw [Traffic.pause]
  cases hahead : t.ahead with
  | nil => exact h
  | cons now later =>
    have hall := h.ahead
    rw [hahead] at hall
    obtain ⟨hnow, hlater⟩ := List.forall_mem_cons.mp hall
    obtain ⟨hopen, hleft⟩ := hclear now (t := { t with ahead := later }) h.isOpen hnow
    exact ⟨hopen, hleft ▸ hlater⟩

end Held

lemma keeps_held : Keeps fun t => t.Held k where
  pause := Held.pause
  send {t} h r e v text := by
    have hpost : (Traffic.send r e v text t).2.post = (t.pause.post.send r v (.text text)).2 :=
      Exchange.post_noteAll (r := r)
    refine ⟨?_, h.pause.ahead⟩
    rw [hpost, Post.send]
    cases r.find? v with
    | none => exact h.pause.isOpen
    | some j => exact Post.isOpen_put.trans h.pause.isOpen
  note h _ := ⟨h.pause.isOpen, h.pause.ahead⟩
  room h _ := ⟨h.isOpen, h.ahead⟩

end Traffic

end Rendezvous
