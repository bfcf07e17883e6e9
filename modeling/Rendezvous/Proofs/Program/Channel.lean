import Rendezvous.Program
import Rendezvous.Proofs.CommandLine.Words
import Rendezvous.Proofs.Exit.Turn
import Rendezvous.Proofs.Settings.Layering

/-! Which control channel the program opens or calls. A server checks the name of its channel; a
request to stop takes the name as it is. -/

namespace Rendezvous

namespace CommandLine

variable {k : String} {opts : List String} {p : Place}

inductive GivesChannel (k : String) : List String → Prop
  | joined : GivesChannel k ["--kanal=" ++ k]
  | apart (h : k = "-" ∨ k.toList.head? ≠ some '-') : GivesChannel k ["--kanal", k]

lemma ofString_channel : Word.ofString ("--kanal=" ++ k) = .long "kanal" (some k) := by
  have hname : "--kanal=" = "--" ++ Flag.channel.name ++ "=" := by decide
  rw [hname]
  exact ofString_joined

lemma onlyOptions_channel (hp : p.flag? "kanal" = some .channel) (h : GivesChannel k opts) :
    onlyOptions p opts = .ok { channel := some k } := by
  cases h with
  | joined =>
    simp [onlyOptions, options, ofString_channel, Scan.long, hp, Scan.next, Scan.settle,
      Arguments.keep, Arguments.has, Arguments.set, Except.map]
  | apart h =>
    have hword : Word.ofString "--kanal" = .long "kanal" none := by decide
    simp [onlyOptions, options, hword, ofString_plain h, Scan.long, hp, Scan.next, Scan.settle,
      Scan.expects?, Arguments.keep, Arguments.has, Arguments.set]

lemma parse_stop_channel (h : GivesChannel k opts) : parse ("stop" :: opts) = .ok (.stop (some k)) := by
  have hword : Word.ofString "stop" = .plain "stop" := ofString_plain (.inr (by decide))
  rw [parse_word hword, command, if_neg (by decide), if_pos rfl, onlyOptions_channel rfl h, Except.map]

lemma parse_run_channel (h : GivesChannel k opts) :
    parse ("run" :: opts) = .ok (.run { channel := some k }) := by
  have hword : Word.ofString "run" = .plain "run" := ofString_plain (.inr (by decide))
  rw [parse_word hword, command, if_pos rfl, onlyOptions_channel rfl h, Except.map]

end CommandLine

namespace Exit.Sockets

variable {s : Sockets} {name : String}

structure Child (s : Sockets) (name : String) : Prop where
  path : s.path name = s.directory ++ "/" ++ (name ++ ".sock") ∨
    s.directory.toList.getLast? = some '/' ∧ s.path name = s.directory ++ (name ++ ".sock")
  file : '/' ∉ (name ++ ".sock").toList
  place : ∀ p, s.locate (s.path name) = .ok p → p = s.seat name

lemma child (s : Sockets) (h : '/' ∉ name.toList) : s.Child name where
  path := by
    have hrelative : Path.isAbsolute (name ++ ".sock") = false := by
      apply beq_false_of_ne
      intro hhead
      exact separator_file h (List.mem_of_mem_head? hhead)
    rw [path, Path.join, hrelative, if_neg (by simp)]
    split
    · rename_i hlast
      exact .inr ⟨eq_of_beq hlast, rfl⟩
    · exact .inl rfl
  file := separator_file h
  place _ := seat_of_locate h

end Exit.Sockets

namespace Program

open Exit (Operation Sockets)
open Settings (IsName)

variable {h g : Host} {args opts : List String} {a : CommandLine.Arguments} {s : Settings}
  {op : Operation} {k : String} {server : Server}

/-- The first thing that the program does with a control channel, if it gets as far. -/
def firstUse? (h : Host) (args : List String) : Option Operation :=
  match CommandLine.parse args with
  | .error _ => none
  | .ok (.stop channel) => some (.stop (channel.getD Settings.standard.channel))
  | .ok (.run a) =>
    match Settings.resolve (text? h) a with
    | .error _ => none
    | .ok s => some (.listen s.channel)

def Uses (op : Operation) (h g : Host) : Prop :=
  ∃ ops, (∀ other ∈ ops, other.name = op.name) ∧ g = { h with sockets := (h.sockets.run (op :: ops)).2 }

lemma uses_one {t : Sockets} (hop : (h.sockets.perform op).2 = t) : Uses op h { h with sockets := t } :=
  ⟨[], List.forall_mem_nil _, by simp only [Sockets.run, hop]⟩

lemma uses_two {t u : Sockets} {next : Operation} (hop : (h.sockets.perform op).2 = t)
    (hnext : (t.perform next).2 = u) (hname : next.name = op.name) : Uses op h { h with sockets := u } :=
  ⟨[next], List.forall_mem_singleton.mpr hname, by simp only [Sockets.run, hop, hnext]⟩

lemma settings_of_bind (hb : Server.bind h s = .ok server) : server.settings = s := by
  obtain ⟨_, -, hb⟩ := Settings.bind_ok_iff.mp hb
  split at hb
  · cases hb
    rfl
  · obtain ⟨_, -, hb⟩ := Settings.bind_ok_iff.mp hb
    obtain ⟨_, -, hb⟩ := Settings.bind_ok_iff.mp hb
    cases hb
    rfl

lemma settings_of_start (hs : (Server.start h s).1 = .ok server) : server.settings = s := by
  dsimp only [Server.start] at hs
  split at hs
  · cases hs
  · split at hs
    · cases hs
    · rename_i hb
      cases hs
      exact settings_of_bind hb

lemma uses_start (s : Settings) (h : Host) : Uses (.listen s.channel) h (Server.start h s).2 := by
  dsimp only [Server.start]
  rcases hl : h.sockets.listen s.channel with ⟨_ | path, sockets⟩
  · apply uses_one
    simp only [Sockets.perform, hl]
  · cases Server.bind h s with
    | error f =>
      have hfirst : (h.sockets.perform (.listen s.channel)).2 = sockets := by
        simp only [Sockets.perform, hl]
      have hclose : (sockets.perform (.close s.channel)).2 = (sockets.close s.channel).2 := by
        simp only [Sockets.perform]
      exact uses_two hfirst hclose rfl
    | ok server =>
      apply uses_one
      simp only [Sockets.perform, hl]

lemma uses_finish (server : Server) (g : Host) :
    Uses (.wait server.settings.channel) g (finish server g).2 := by
  dsimp only [finish, Server.await]
  rcases hw : g.sockets.wait server.settings.channel with ⟨_ | r, sockets⟩
  · apply uses_one
    simp only [Sockets.perform, hw]
  · have hfirst : (g.sockets.perform (.wait server.settings.channel)).2 = sockets := by
      simp only [Sockets.perform, hw]
    have hclose : (sockets.perform (.close server.settings.channel)).2 =
        (sockets.close server.settings.channel).2 := by
      simp only [Sockets.perform]
    exact uses_two hfirst hclose rfl

lemma run_of_firstUse?_eq_none (hu : firstUse? h args = none) (t : Sockets) :
    run { h with sockets := t } args = ((run h args).1, { h with sockets := t }) := by
  rcases hp : CommandLine.parse args with r | (a | channel)
  · simp only [run, hp]
  · have htext : text? { h with sockets := t } = text? h := rfl
    rcases hs : Settings.resolve (text? h) a with f | s
    · simp only [run, hp, serve, htext, hs]
    · simp [firstUse?, hp, hs] at hu
  · simp [firstUse?, hp] at hu

lemma run_of_firstUse? (hu : firstUse? h args = some op) :
    (∃ channel, CommandLine.parse args = .ok (.stop channel) ∧
      op = .stop (channel.getD Settings.standard.channel) ∧
      run h args = (.ended (stop h (channel.getD Settings.standard.channel)).1,
        (stop h (channel.getD Settings.standard.channel)).2)) ∨
    ∃ a s, CommandLine.parse args = .ok (.run a) ∧ Settings.resolve (text? h) a = .ok s ∧
      op = .listen s.channel ∧ (run h args).2 = (Server.start h s).2 ∧
      ∀ server, (run h args).1 = .serving server → (Server.start h s).1 = .ok server := by
  rcases hp : CommandLine.parse args with r | (a | channel)
  · simp [firstUse?, hp] at hu
  · rcases hs : Settings.resolve (text? h) a with f | s
    · simp [firstUse?, hp, hs] at hu
    · simp only [firstUse?, hp, hs, Option.some.injEq] at hu
      refine .inr ⟨a, s, rfl, hs, hu.symm, ?_⟩
      simp only [run, hp, serve, hs]
      rcases Server.start h s with ⟨_ | server, g⟩
      · exact ⟨rfl, fun _ h => absurd h (by simp)⟩
      · exact ⟨rfl, fun _ h => congrArg _ (Outcome.serving.inj h)⟩
  · simp only [firstUse?, hp, Option.some.injEq] at hu
    refine .inl ⟨channel, rfl, hu.symm, ?_⟩
    simp only [run, hp]

lemma uses_run (hu : firstUse? h args = some op) : Uses op h (run h args).2 := by
  rcases run_of_firstUse? hu with ⟨channel, -, rfl, hr⟩ | ⟨a, s, -, -, rfl, hr, -⟩
  · rw [hr]
    exact uses_one rfl
  · rw [hr]
    exact uses_start s h

lemma channel_of_run (hu : firstUse? h args = some op) (hr : (run h args).1 = .serving server) :
    server.settings.channel = op.name := by
  rcases run_of_firstUse? hu with ⟨channel, -, -, hend⟩ | ⟨a, s, -, -, rfl, -, hstart⟩
  · rw [hend] at hr
    cases hr
  · exact congrArg Settings.channel (settings_of_start (hstart server hr))

lemma isName_iff : (∀ op, firstUse? h args = some op → IsName op.name) ↔
    ∀ k, CommandLine.parse args = .ok (.stop (some k)) → IsName k := by
  constructor
  · intro hall k hk
    have hu : firstUse? h args = some (.stop k) := by simp [firstUse?, hk]
    exact hall _ hu
  · intro hall op hu
    rcases run_of_firstUse? hu with ⟨_ | k, hp, rfl, -⟩ | ⟨a, s, -, hs, rfl, -⟩
    · exact Settings.isName_standard
    · exact hall k hp
    · exact Settings.isName_of_layers (Settings.layers_of_resolve hs)

lemma firstUse?_stop (hk : CommandLine.GivesChannel k opts) :
    firstUse? h ("stop" :: opts) = some (.stop k) := by
  simp only [firstUse?, CommandLine.parse_stop_channel hk, Option.getD_some]

lemma resolve_channel {load : String → Option String} : Settings.resolve load { channel := some k } =
    if Settings.isChannelName k then .ok { Settings.standard with channel := k }
    else .error (.channel k) := by
  simp only [Settings.resolve, Settings.applyArguments, Settings.replace, Settings.readChannel]
  cases Settings.isChannelName k <;> rfl

lemma firstUse?_run (hk : CommandLine.GivesChannel k opts) :
    firstUse? h ("run" :: opts) = if Settings.isChannelName k then some (.listen k) else none := by
  simp only [firstUse?, CommandLine.parse_run_channel hk, resolve_channel]
  cases Settings.isChannelName k <;> rfl

lemma run_of_not_isName (hk : CommandLine.GivesChannel k opts) (hname : ¬ IsName k) :
    run h ("run" :: opts) = (.ended (failAll (Settings.Fault.channel k).messages), h) := by
  rw [← Settings.isChannelName_iff] at hname
  simp only [run, CommandLine.parse_run_channel hk, serve, resolve_channel, if_neg hname]

theorem channel_checked_iff (h : Host) (args : List String) :
    (firstUse? h args = none →
      ∀ t, run { h with sockets := t } args = ((run h args).1, { h with sockets := t })) ∧
    (∀ op, firstUse? h args = some op → Uses op h (run h args).2 ∧
      (∀ server, (run h args).1 = .serving server →
        ∀ g, Uses (.wait op.name) g (finish server g).2 ∧ Uses (.abort op.name) g (server.abort g)) ∧
      (IsName op.name → ∀ s : Sockets, s.Child op.name)) ∧
    ((∀ op, firstUse? h args = some op → IsName op.name) ↔
      ∀ k, CommandLine.parse args = .ok (.stop (some k)) → IsName k) ∧
    ∀ k opts, CommandLine.GivesChannel k opts →
      firstUse? h ("stop" :: opts) = some (.stop k) ∧
      (firstUse? h ("run" :: opts) = some (.listen k) ↔ IsName k) ∧
      (¬ IsName k → run h ("run" :: opts) = (.ended (failAll (Settings.Fault.channel k).messages), h)) := by
  refine ⟨run_of_firstUse?_eq_none, fun op hu => ⟨uses_run hu, fun server hr g => ?_, fun hname s => ?_⟩,
    isName_iff, fun k opts hk => ⟨firstUse?_stop hk, ?_, run_of_not_isName hk⟩⟩
  · rw [← channel_of_run hu hr]
    exact ⟨uses_finish server g, uses_one rfl⟩
  · exact s.child hname.slash
  · rw [firstUse?_run hk, ← Settings.isChannelName_iff]
    simp

def stray : Host where
  file? _ := none
  admits _ _ := true
  sockets := ⟨"/run/user/7", [(["run", "user", "x.sock"], .listening "x" .empty)]⟩

theorem stop_leaves_directory :
    run stray ["run", "--kanal", "../x"] = (.ended (fail
      "Ungueltiger Kanalname '../x': darf nicht leer sein und keine Pfadtrenner enthalten"), stray) ∧
    firstUse? stray ["stop", "--kanal", "../x"] = some (.stop "../x") ∧ ¬ IsName "../x" ∧
    (run stray ["stop", "--kanal", "../x"]).1 =
      .ended { code := 0, output := "Stop an '../x' gesendet\n" } ∧
    stray.sockets.locate (stray.sockets.path "../x") = .ok ["run", "user", "x.sock"] ∧
    ¬ stray.sockets.Child "../x" := by
  have hgives : CommandLine.GivesChannel "../x" ["--kanal", "../x"] := .apart (.inr (by decide))
  have hname : ¬ IsName "../x" := fun hname => hname.slash (by decide)
  have hrefused : failAll (Settings.Fault.channel "../x").messages = fail
      "Ungueltiger Kanalname '../x': darf nicht leer sein und keine Pfadtrenner enthalten" := by
    decide +kernel
  have hstop : (stop stray "../x").1 = { code := 0, output := "Stop an '../x' gesendet\n" } := by
    decide +kernel
  have hplace : stray.sockets.locate (stray.sockets.path "../x") = .ok ["run", "user", "x.sock"] := by
    decide +kernel
  refine ⟨?_, firstUse?_stop hgives, hname, ?_, hplace, ?_⟩
  · rw [← hrefused]
    exact run_of_not_isName hgives hname
  · simp only [run, CommandLine.parse_stop_channel hgives, Option.getD_some]
    exact congrArg Outcome.ended hstop
  · intro hchild
    exact absurd (hchild.place _ hplace) (by decide)

end Program

end Rendezvous
