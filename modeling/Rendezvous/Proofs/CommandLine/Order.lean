import Mathlib.Data.List.Nodup
import Rendezvous.Proofs.CommandLine.Words

/-! Command lines as lists of options with their values. The order of the options and the way in which each is
written make no difference to what is run, nor does the command itself. -/

namespace Rendezvous.CommandLine

structure Item where
  flag : Flag
  value : String
deriving DecidableEq

/-- The options that arguments consist of. Two dashes may end them. A value that begins with a dash stands
in one word with its option. -/
inductive Lists : List Item → List String → Prop
  | finished : Lists [] []
  | escaped : Lists [] ["--"]
  | joined {f : Flag} {v : String} {xs : List Item} {args : List String} (h : Lists xs args) :
      Lists (⟨f, v⟩ :: xs) (("--" ++ f.name ++ "=" ++ v) :: args)
  | apart {f : Flag} {v : String} {xs : List Item} {args : List String}
      (hv : v = "-" ∨ v.toList.head? ≠ some '-') (h : Lists xs args) :
      Lists (⟨f, v⟩ :: xs) (("--" ++ f.name) :: v :: args)

inductive Reading where
  | number (n : ℕ)
  | text (s : String)

def Flag.read (value : String) : Flag → Except Refusal Reading
  | .port => (readPort value).map .number
  | .tlsPort => (readPort value).map .number
  | .logLevel => .ok (.text value)
  | .ice => .ok (.text value)
  | .config => if value.isEmpty then .error .invalidValue else .ok (.text value)
  | .channel => .ok (.text value)

namespace Arguments

def value? (a : Arguments) : Flag → Option Reading
  | .port => a.port.map .number
  | .tlsPort => a.tlsPort.map .number
  | .logLevel => a.logLevel.map .text
  | .ice => a.ice.map .text
  | .config => a.config.map .text
  | .channel => a.channel.map .text

def keepAll (a : Arguments) : List Item → Except Refusal Arguments
  | [] => .ok a
  | x :: xs =>
    match a.keep x.flag (some x.value) with
    | .error e => .error e
    | .ok b => keepAll b xs

structure Gains (a : Arguments) (xs : List Item) (b : Arguments) : Prop where
  once : (xs.map Item.flag).Nodup
  fresh : ∀ x ∈ xs, a.value? x.flag = none
  said : ∀ x ∈ xs, ∃ y, x.flag.read x.value = .ok y ∧ b.value? x.flag = some y
  rest : ∀ f ∉ xs.map Item.flag, b.value? f = a.value? f

variable {a b c : Arguments} {f g : Flag} {v : String} {e : Refusal} {y : Reading} {x : Item}
  {xs ys : List Item}

lemma eq_of_value? (h : ∀ f, a.value? f = b.value? f) : a = b := by
  have hnumber : Function.Injective (Option.map Reading.number) :=
    Option.map_injective fun _ _ => Reading.number.inj
  have htext : Function.Injective (Option.map Reading.text) :=
    Option.map_injective fun _ _ => Reading.text.inj
  obtain ⟨port, tlsPort, logLevel, ice, config, channel⟩ := a
  rw [mk.injEq]
  exact ⟨hnumber (h .port), hnumber (h .tlsPort), htext (h .logLevel), htext (h .ice),
    htext (h .config), htext (h .channel)⟩

lemma has_eq : a.has f = (a.value? f).isSome := by
  cases f <;> exact Option.isSome_map.symm

lemma set_of_read (h : f.read v = .ok y) :
    ∃ b, a.set v f = .ok b ∧ ∀ g, b.value? g = if g = f then some y else a.value? g := by
  cases f with
  | port | tlsPort =>
    rw [Flag.read] at h
    rw [set]
    cases hn : readPort v with
    | error e =>
      rw [hn] at h
      cases h
    | ok n =>
      rw [hn] at h
      cases h
      exact ⟨_, rfl, fun g => by cases g <;> rfl⟩
  | logLevel | ice | channel =>
    cases h
    exact ⟨_, rfl, fun g => by cases g <;> rfl⟩
  | config =>
    rw [Flag.read] at h
    rw [set]
    split at h
    · cases h
    · rename_i hv
      cases h
      exact ⟨_, if_neg hv, fun g => by cases g <;> rfl⟩

lemma set_of_unread (h : f.read v = .error e) : a.set v f = .error e := by
  cases f with
  | port | tlsPort =>
    rw [Flag.read] at h
    rw [set]
    cases hn : readPort v with
    | error e =>
      rw [hn] at h
      cases h
      rfl
    | ok n =>
      rw [hn] at h
      cases h
  | logLevel | ice | channel => cases h
  | config =>
    rw [Flag.read] at h
    rw [set]
    split at h
    · rename_i hv
      cases h
      exact if_pos hv
    · cases h

lemma keep_ok_iff : a.keep f (some v) = .ok b ↔ a.value? f = none ∧
    ∃ y, f.read v = .ok y ∧ ∀ g, b.value? g = if g = f then some y else a.value? g := by
  rw [keep, has_eq]
  cases hf : a.value? f with
  | some y => simp
  | none =>
    cases hread : f.read v with
    | error e => simp [set_of_unread hread]
    | ok y =>
      obtain ⟨b', hb', hvalues⟩ := set_of_read (a := a) hread
      rw [if_neg (by simp), hb']
      constructor
      · rintro ⟨⟩
        exact ⟨rfl, y, rfl, hvalues⟩
      · rintro ⟨-, y', hy', h⟩
        cases hy'
        exact congrArg Except.ok (eq_of_value? fun g => (hvalues g).trans (h g).symm)

lemma keepAll_cons_ok_iff : a.keepAll (x :: xs) = .ok b ↔
    ∃ c, a.keep x.flag (some x.value) = .ok c ∧ c.keepAll xs = .ok b := by
  rw [keepAll]
  cases a.keep x.flag (some x.value) with
  | error e => simp
  | ok c => simp

lemma gains_nil_iff : a.Gains [] b ↔ a = b := by
  constructor
  · exact fun h => eq_of_value? fun f => (h.rest f List.not_mem_nil).symm
  · rintro rfl
    exact ⟨List.nodup_nil, by simp, by simp, fun _ _ => rfl⟩

lemma gains_cons (hc : a.keep x.flag (some x.value) = .ok c) (h : c.Gains xs b) :
    a.Gains (x :: xs) b := by
  obtain ⟨hfree, y, hread, hvalues⟩ := keep_ok_iff.mp hc
  have hother : ∀ z ∈ xs, z.flag ≠ x.flag := by
    intro z hz he
    have hnone := h.fresh z hz
    rw [hvalues, if_pos he] at hnone
    cases hnone
  have hx : x.flag ∉ xs.map Item.flag := by
    simpa using hother
  refine ⟨List.nodup_cons.mpr ⟨hx, h.once⟩, ?_, ?_, ?_⟩
  · refine List.forall_mem_cons.mpr ⟨hfree, fun z hz => ?_⟩
    have hnone := h.fresh z hz
    rwa [hvalues, if_neg (hother z hz)] at hnone
  · refine List.forall_mem_cons.mpr ⟨⟨y, hread, ?_⟩, h.said⟩
    rw [h.rest x.flag hx, hvalues, if_pos rfl]
  · intro f hf
    rw [List.map_cons, List.mem_cons, not_or] at hf
    rw [h.rest f hf.2, hvalues, if_neg hf.1]

lemma exists_of_gains_cons (h : a.Gains (x :: xs) b) :
    ∃ c, a.keep x.flag (some x.value) = .ok c ∧ c.Gains xs b := by
  obtain ⟨hx, honce⟩ := List.nodup_cons.mp h.once
  obtain ⟨⟨y, hread, hy⟩, hsaid⟩ := List.forall_mem_cons.mp h.said
  obtain ⟨hfree, hfresh⟩ := List.forall_mem_cons.mp h.fresh
  obtain ⟨c, -, hvalues⟩ := set_of_read (a := a) hread
  refine ⟨c, keep_ok_iff.mpr ⟨hfree, y, hread, hvalues⟩, honce, fun z hz => ?_, hsaid, fun f hf => ?_⟩
  · have hne : z.flag ≠ x.flag := fun he => hx (he ▸ List.mem_map_of_mem hz)
    rw [hvalues, if_neg hne]
    exact hfresh z hz
  · rw [hvalues]
    split
    · rename_i he
      rw [he, hy]
    · rename_i hne
      apply h.rest f
      rw [List.map_cons, List.mem_cons, not_or]
      exact ⟨hne, hf⟩

lemma keepAll_ok_iff : a.keepAll xs = .ok b ↔ a.Gains xs b := by
  induction xs generalizing a with
  | nil => rw [gains_nil_iff, keepAll, Except.ok.injEq]
  | cons x xs ih =>
    rw [keepAll_cons_ok_iff]
    constructor
    · rintro ⟨c, hc, hb⟩
      exact gains_cons hc (ih.mp hb)
    · intro h
      obtain ⟨c, hc, hrest⟩ := exists_of_gains_cons h
      exact ⟨c, hc, ih.mpr hrest⟩

lemma Gains.perm (h : a.Gains xs b) (hp : ys.Perm xs) : a.Gains ys b where
  once := (hp.map Item.flag).nodup_iff.mpr h.once
  fresh x hx := h.fresh x (hp.mem_iff.mp hx)
  said x hx := h.said x (hp.mem_iff.mp hx)
  rest f hf := h.rest f fun hmem => hf ((hp.map Item.flag).mem_iff.mpr hmem)

end Arguments

def Scan.held (s : Scan) : List String :=
  match s.pending with
  | none => []
  | some (f, none) => ["--" ++ f.name]
  | some (f, some v) => ["--" ++ f.name, v]

def Scan.Sound (s : Scan) : Prop :=
  ∀ f v, s.pending = some (f, some v) → v = "-" ∨ v.toList.head? ≠ some '-'

def Stop.Ends : Stop → Prop
  | .finished => True
  | .escaped rest => rest = []
  | .word _ _ => False

variable {p : Place} {s s' : Scan} {stop : Stop} {args : List String} {a b c : Arguments}
  {xs ys : List Item}

lemma Scan.report_ne_ok {value : Option String} {r : Refusal} : s.report value r ≠ .ok s' := by
  unfold report
  split <;> simp

lemma Scan.next_of_long {name : String} {value : Option String} (h : s.long p name value = .ok s') :
    ∃ f, p.flag? name = some f ∧ s.next f value = .ok s' := by
  rw [long] at h
  split at h
  · rename_i f hf
    exact ⟨f, hf, h⟩
  · split at h
    · exact absurd h report_ne_ok
    · split at h
      · exact absurd h report_ne_ok
      · cases h

lemma Scan.short_ne_ok {char : Char} : s.short p char ≠ .ok s' := by
  rw [short]
  split
  · exact report_ne_ok
  · split
    · exact report_ne_ok
    · simp

lemma Scan.next_none_iff {f : Flag} : s.next f none = .ok s' ↔
    ∃ a, s.settle = .ok a ∧ s' = ⟨a, some (f, none)⟩ := by
  rw [next]
  cases s.settle with
  | error e => simp
  | ok a => simp [eq_comm]

lemma Scan.next_some_iff {f : Flag} {v : String} : s.next f (some v) = .ok s' ↔
    ∃ a b, s.settle = .ok a ∧ a.keep f (some v) = .ok b ∧ s' = ⟨b, none⟩ := by
  rw [next]
  cases s.settle with
  | error e => simp
  | ok a => cases ha : a.keep f (some v) <;> simp [ha, Except.map, eq_comm]

lemma Lists.held (hs : s.Sound) (ha : s.settle = .ok a) (h : Lists xs args)
    (hb : a.keepAll xs = .ok b) : ∃ ys, Lists ys (s.held ++ args) ∧ s.arguments.keepAll ys = .ok b := by
  obtain ⟨arguments, _ | ⟨f, _ | v⟩⟩ := s
  · cases ha
    exact ⟨xs, h, hb⟩
  · cases ha
  · exact ⟨⟨f, v⟩ :: xs, .apart (hs f v rfl) h, Arguments.keepAll_cons_ok_iff.mpr ⟨a, ha, hb⟩⟩

lemma lists_of_options (hs : s.Sound) (h : options p s args = .ok (s', stop)) (hstop : stop.Ends)
    (hb : s'.settle = .ok b) : ∃ xs, Lists xs (s.held ++ args) ∧ s.arguments.keepAll xs = .ok b := by
  -- The latest option is held back until the next word shows whether it has a value.
  induction args generalizing s with
  | nil =>
    cases h
    exact Lists.held hs hb .finished rfl
  | cons arg rest ih =>
    rw [options] at h
    cases hword : Word.ofString arg with
    | escape =>
      rw [hword] at h
      cases h
      obtain rfl := eq_of_ofString_escape hword
      obtain rfl : rest = [] := hstop
      exact Lists.held hs hb .escaped rfl
    | long name value =>
      rw [hword] at h
      cases hlong : s.long p name value with
      | error e => simp [hlong] at h
      | ok t =>
        simp only [hlong] at h
        obtain ⟨f, hf, hnext⟩ := Scan.next_of_long hlong
        obtain rfl := name_of_flag? hf
        obtain rfl := eq_of_ofString_long hword
        cases value with
        | none =>
          obtain ⟨a, ha, rfl⟩ := Scan.next_none_iff.mp hnext
          obtain ⟨xs, hxs, hkept⟩ := ih (by rintro _ _ ⟨⟩) h
          exact Lists.held hs ha hxs hkept
        | some v =>
          obtain ⟨a, c, ha, hc, rfl⟩ := Scan.next_some_iff.mp hnext
          obtain ⟨xs, hxs, hkept⟩ := ih (by rintro _ _ ⟨⟩) h
          exact Lists.held hs ha (.joined hxs) (Arguments.keepAll_cons_ok_iff.mpr ⟨c, hc, hkept⟩)
    | short char =>
      rw [hword] at h
      cases hshort : s.short p char with
      | error e => simp [hshort] at h
      | ok t => exact absurd hshort Scan.short_ne_ok
    | plain word =>
      rw [hword] at h
      obtain ⟨rfl, hplain⟩ := plain_of_ofString hword
      obtain ⟨arguments, _ | ⟨f, _ | v⟩⟩ := s
      · cases h
        exact hstop.elim
      · refine ih (s := ⟨arguments, some (f, some word)⟩) ?_ h
        rintro _ _ ⟨⟩
        exact hplain
      · cases h
        exact hstop.elim

lemma options_of_lists (hp : p.flags = Flag.all) (h : Lists xs args) (hs : s.expects? = none)
    (ha : s.settle = .ok a) (hb : a.keepAll xs = .ok b) :
    ∃ s' stop, options p s args = .ok (s', stop) ∧ stop.Ends ∧ s'.settle = .ok b := by
  induction h generalizing s a with
  | finished =>
    cases hb
    exact ⟨s, .finished, rfl, trivial, ha⟩
  | escaped =>
    cases hb
    exact ⟨s, .escaped [], rfl, rfl, ha⟩
  | @joined f v xs args _ ih =>
    obtain ⟨c, hc, hb⟩ := Arguments.keepAll_cons_ok_iff.mp hb
    have hlong : s.long p f.name (some v) = .ok ⟨c, none⟩ := by
      simp only [Scan.long, flag?_name hp, Scan.next_some_iff]
      exact ⟨a, c, ha, hc, rfl⟩
    simp only [options, ofString_joined, hlong]
    exact ih rfl rfl hb
  | @apart f v xs args hv _ ih =>
    obtain ⟨c, hc, hb⟩ := Arguments.keepAll_cons_ok_iff.mp hb
    have hlong : s.long p f.name none = .ok ⟨a, some (f, none)⟩ := by
      simp only [Scan.long, flag?_name hp, Scan.next_none_iff]
      exact ⟨a, ha, rfl⟩
    simp only [options, ofString_name, hlong, ofString_plain hv]
    exact ih rfl hc hb

lemma onlyOptions_ok_iff_ends : onlyOptions p args = .ok b ↔
    ∃ s stop, options p {} args = .ok (s, stop) ∧ stop.Ends ∧ s.settle = .ok b := by
  unfold onlyOptions
  cases options p {} args with
  | error e => simp
  | ok r =>
    obtain ⟨s, _ | rest | ⟨word, rest⟩⟩ := r
    · simp [Stop.Ends]
    · cases rest <;> simp [Stop.Ends]
    · simp [Stop.Ends]

lemma onlyOptions_ok_iff (hp : p.flags = Flag.all) :
    onlyOptions p args = .ok a ↔ ∃ xs, Lists xs args ∧ Arguments.Gains {} xs a := by
  rw [onlyOptions_ok_iff_ends]
  constructor
  · rintro ⟨s, stop, h, hstop, ha⟩
    obtain ⟨xs, hxs, hkept⟩ := lists_of_options (by rintro _ _ ⟨⟩) h hstop ha
    exact ⟨xs, hxs, Arguments.keepAll_ok_iff.mp hkept⟩
  · rintro ⟨xs, hxs, hgains⟩
    exact options_of_lists hp hxs rfl rfl (Arguments.keepAll_ok_iff.mpr hgains)

lemma parse_run_iff : parse ("run" :: args) = .ok (.run a) ↔ onlyOptions .run args = .ok a := by
  have hword : Word.ofString "run" = .plain "run" := ofString_plain (.inr (by decide))
  rw [parse_word hword, command, if_pos rfl]
  cases onlyOptions .run args <;> simp [Except.map]

lemma parse_of_onlyOptions (h : onlyOptions .top args = .ok a) : parse args = .ok (.run a) := by
  obtain ⟨s, stop, hoptions, hstop, ha⟩ := onlyOptions_ok_iff_ends.mp h
  unfold parse
  rw [hoptions]
  obtain _ | rest | ⟨word, rest⟩ := stop
  · simp only [ha, Except.map]
  · obtain rfl : rest = [] := hstop
    simp only [ha, Except.map]
  · exact hstop.elim

lemma parse_of_lists (h : Lists xs args) (ha : Arguments.Gains {} xs a) :
    parse args = .ok (.run a) ∧ parse ("run" :: args) = .ok (.run a) :=
  ⟨parse_of_onlyOptions ((onlyOptions_ok_iff rfl).mpr ⟨xs, h, ha⟩),
    parse_run_iff.mpr ((onlyOptions_ok_iff rfl).mpr ⟨xs, h, ha⟩)⟩

lemma name_injective : Function.Injective Flag.name := by
  intro f g h
  have hf : Place.top.flag? f.name = some f := flag?_name rfl
  rw [h, flag?_name rfl] at hf
  exact (Option.some.inj hf).symm

lemma Lists.cases_cons {arg : String} (h : Lists xs (arg :: args)) :
    arg = "--" ∧ args = [] ∧ xs = [] ∨
    (∃ f v ys, arg = "--" ++ f.name ++ "=" ++ v ∧ xs = ⟨f, v⟩ :: ys ∧ Lists ys args) ∨
    ∃ f v ys rest, arg = "--" ++ f.name ∧ args = v :: rest ∧ xs = ⟨f, v⟩ :: ys ∧ Lists ys rest := by
  cases h with
  | escaped => exact .inl ⟨rfl, rfl, rfl⟩
  | joined h => exact .inr (.inl ⟨_, _, _, rfl, rfl, h⟩)
  | apart _ h => exact .inr (.inr ⟨_, _, _, _, rfl, rfl, rfl, h⟩)

lemma Lists.unique (h : Lists xs args) (h' : Lists ys args) : xs = ys := by
  induction h generalizing ys with
  | finished =>
    cases h'
    rfl
  | escaped =>
    have hword : Word.ofString "--" = .escape := rfl
    rcases h'.cases_cons with ⟨-, -, rfl⟩ | ⟨f, v, _, he, -⟩ | ⟨f, v, _, _, he, -⟩
    · rfl
    · rw [he, ofString_joined] at hword
      cases hword
    · rw [he, ofString_name] at hword
      cases hword
  | @joined f v xs args _ ih =>
    have hword : Word.ofString ("--" ++ f.name ++ "=" ++ v) = .long f.name (some v) := ofString_joined
    rcases h'.cases_cons with ⟨he, -⟩ | ⟨g, w, zs, he, rfl, hzs⟩ | ⟨g, w, _, _, he, -⟩
    · rw [he] at hword
      cases hword
    · rw [he, ofString_joined, Word.long.injEq, Option.some.injEq] at hword
      obtain ⟨hname, rfl⟩ := hword
      rw [name_injective hname, ih hzs]
    · rw [he, ofString_name, Word.long.injEq] at hword
      cases hword.2
  | @apart f v xs args _ _ ih =>
    have hword : Word.ofString ("--" ++ f.name) = .long f.name none := ofString_name
    rcases h'.cases_cons with ⟨he, -⟩ | ⟨g, w, _, he, -⟩ | ⟨g, w, zs, rest, he, hargs, rfl, hzs⟩
    · rw [he] at hword
      cases hword
    · rw [he, ofString_joined, Word.long.injEq] at hword
      cases hword.2
    · rw [he, ofString_name, Word.long.injEq] at hword
      obtain ⟨rfl, rfl⟩ := List.cons.inj hargs
      rw [name_injective hword.1, ih hzs]

theorem run_optional (h : parse ("run" :: args) = .ok (.run a)) :
    parse args = .ok (.run a) ∧ (∃ xs, Lists xs args) ∧
    ∀ xs ys other, Lists xs args → Lists ys other → ys.Perm xs →
      parse other = .ok (.run a) ∧ parse ("run" :: other) = .ok (.run a) := by
  obtain ⟨xs, hxs, hgains⟩ := (onlyOptions_ok_iff rfl).mp (parse_run_iff.mp h)
  refine ⟨(parse_of_lists hxs hgains).1, ⟨xs, hxs⟩, fun xs' ys other hxs' hys hperm => ?_⟩
  obtain rfl := hxs.unique hxs'
  exact parse_of_lists hys (hgains.perm hperm)

theorem run_optional_disordered :
    let args := ["--log-level", "run", "--kanal=", "--port", "80", "--"]
    let other := ["--kanal", "", "--port=80", "--log-level=run"]
    let a : Arguments := { port := some 80, logLevel := some "run", channel := some "" }
    parse ("run" :: args) = .ok (.run a) ∧ parse args = .ok (.run a) ∧ parse other = .ok (.run a) ∧
      parse ("run" :: other) = .ok (.run a) := by
  intro args other a
  have h : parse ("run" :: args) = .ok (.run a) := by decide +kernel
  have hargs : args = ["--" ++ Flag.logLevel.name, "run", "--" ++ Flag.channel.name ++ "=" ++ "",
      "--" ++ Flag.port.name, "80", "--"] := by decide
  have hother : other = ["--" ++ Flag.channel.name, "", "--" ++ Flag.port.name ++ "=" ++ "80",
      "--" ++ Flag.logLevel.name ++ "=" ++ "run"] := by decide
  have hxs : Lists [⟨.logLevel, "run"⟩, ⟨.channel, ""⟩, ⟨.port, "80"⟩] args := by
    rw [hargs]
    exact .apart (by decide) (.joined (.apart (by decide) .escaped))
  have hys : Lists [⟨.channel, ""⟩, ⟨.port, "80"⟩, ⟨.logLevel, "run"⟩] other := by
    rw [hother]
    exact .apart (by decide) (.joined (.joined .finished))
  obtain ⟨htop, -, hreordered⟩ := run_optional h
  exact ⟨h, htop, hreordered _ _ _ hxs hys (by decide)⟩

end Rendezvous.CommandLine
