import Rendezvous.Proofs.Room.Offer

/-! Whether anything arrives makes no difference to the room: with any two outlets the same events
lead through the same rooms, and the server tries to send the same letters. Only of the notices each
outlet drops those for connections that it finds closed. -/

namespace Rendezvous

namespace Outlet

variable {σ : Type} (o : Outlet σ)

/-- What is handed out after a turn, beginning with `s`: every letter, and behind them the notices
to those connections that the outlet says are open when it is asked. -/
def HandsOut (turn : Turn) (s : σ) (sent : List Sent) : Prop :=
  ∃ up, o.Finds turn s up ∧ sent.map Sent.address = turn.outbox.letters ++
    (turn.outbox.notices.filter fun n => up n.receiver).map Notice.address

end Outlet

namespace Room

variable {σ τ : Type} {ice : Ice} {o : Outlet σ} {s : σ} {es : List Event} {e : Event} {room : Room}

lemma run_concat : run ice o (es ++ [e]) room s =
    let before := run ice o es room s
    let later := before.2.1.act ice o before.2.2 e
    (before.1 ++ [later.2.1], later.1, later.2.2) := by
  induction es generalizing room s with
  | nil => rfl
  | cons f es ih =>
    exact congrArg (fun r : List (List Sent) × Room × σ => ((room.act ice o s f).2.1 :: r.1, r.2)) ih

lemma handsOut_act : o.HandsOut ((after ice es).step ice e) s ((after ice es).act ice o s e).2.1 := by
  obtain ⟨up, hup⟩ : ∃ up, o.Finds ((after ice es).step ice e) s up := exists_finds_step es
  exact ⟨up, hup, act_sent hup⟩

lemma exists_handsOut_run : ∃ sent,
    (run ice o (es ++ [e]) .empty s).1 = (run ice o es .empty s).1 ++ [sent] ∧
    o.HandsOut ((after ice es).step ice e) (run ice o es .empty s).2.2 sent := by
  refine ⟨_, by rw [run_concat], ?_⟩
  rw [run_room_empty]
  exact handsOut_act

theorem runs_agree (ice : Ice) (o : Outlet σ) (s : σ) (q : Outlet τ) (t : τ) (es : List Event)
    (e : Event) :
    let one := run ice o es .empty s
    let two := run ice q es .empty t
    let turn := one.2.1.step ice e
    one.2.1.peers = two.2.1.peers ∧ one.2.1.pairs = two.2.1.pairs ∧
    (∀ l ∈ turn.outbox.letters, one.2.1.Issues e l) ∧
    (∃ sent, (run ice o (es ++ [e]) .empty s).1 = one.1 ++ [sent] ∧ o.HandsOut turn one.2.2 sent) ∧
    ∃ sent, (run ice q (es ++ [e]) .empty t).1 = two.1 ++ [sent] ∧ q.HandsOut turn two.2.2 sent := by
  intro one two turn
  have hone : one.2.1 = after ice es := run_room_empty ice o es s
  have htwo : two.2.1 = after ice es := run_room_empty ice q es t
  have hturn : turn = (after ice es).step ice e := congrArg (step ice · e) hone
  refine ⟨by rw [hone, htwo], by rw [hone, htwo], fun l hl => issues_step hl, ?_, ?_⟩
  · rw [hturn]
    exact exists_handsOut_run
  · rw [hturn]
    exact exists_handsOut_run

theorem runs_agree_oneOffer :
    (run .none (Exchange.outlet onlySecond) oneOffer .empty oneMailbox).2.1.pairs =
      (run .none (Exchange.outlet .empty) oneOffer .empty {}).2.1.pairs ∧
    told 0 ((after .none oneOffer).act .none (Exchange.outlet onlySecond) oneMailbox
      (.closed 1)).2.1 = [2] ∧
    told 0 ((after .none oneOffer).act .none (Exchange.outlet .empty) {} (.closed 1)).2.1 = [] := by
  have hagree := runs_agree .none (Exchange.outlet onlySecond) oneMailbox (Exchange.outlet .empty) {}
    oneOffer (.closed 1)
  obtain ⟨-, -, -, htold, huntold⟩ := after_oneOffer
  exact ⟨hagree.2.1, htold, huntold⟩

end Room

end Rendezvous
