import Mathlib.Data.Option.Basic
import Mathlib.Tactic.Lemma
import Rendezvous.Proofs.Settings.Values
import Rendezvous.Settings.Layers

/-! How the layers of settings come together. All that is set has to be valid on its own, in both
layers; what the file sets decides, then the command line, then the standard. -/

namespace Rendezvous.Settings

section Choices

variable {α β ε : Type} {means : α → β → Prop} {read : α → Except ε β} {given file line : Option α}
  {old mid new : β}

def Chosen (means : α → β → Prop) (given : Option α) (old new : β) : Prop :=
  match given with
  | none => new = old
  | some a => means a new

lemma Chosen.trans (hl : Chosen means line old mid) (hf : Chosen means file mid new) :
    Chosen means (file.or line) old new := by
  cases file with
  | none =>
    obtain rfl : new = mid := hf
    exact hl
  | some a => exact hf

lemma Chosen.imp {other : α → β → Prop} (h : Chosen means given old new)
    (himp : ∀ a b, means a b → other a b) : Chosen other given old new := by
  cases given with
  | none => exact h
  | some a => exact himp a new h

lemma chosen_eq_iff {given : Option β} :
    Chosen (fun a b => b = a) given old new ↔ new = given.getD old := by
  cases given <;> rfl

lemma chosen_map {f : α → β} : Chosen (fun a b => b = f a) given old new ↔
    new = (given.map f).getD old := by
  cases given <;> rfl

lemma Chosen.of_old {P : β → Prop} {given : Option β}
    (h : Chosen (fun a b => P a ∧ b = a) given old new) (hold : P old) : P new := by
  cases given with
  | none =>
    obtain rfl : new = old := h
    exact hold
  | some a =>
    obtain ⟨ha, rfl⟩ : P a ∧ new = a := h
    exact ha

lemma replace_ok_iff (hread : ∀ a b, read a = .ok b ↔ means a b) :
    replace read given old = .ok new ↔ Chosen means given old new := by
  cases given with
  | none => exact ⟨fun h => (Except.ok.inj h).symm, fun h => congrArg _ (Eq.symm h)⟩
  | some a => exact hread a new

lemma exists_chosen_iff : (∃ new, Chosen means given old new) ↔ ∀ a ∈ given, ∃ b, means a b := by
  cases given with
  | none => simp [Chosen]
  | some a => simp [Chosen]

lemma bind_ok_iff {x : Except ε α} {f : α → Except ε β} {b : β} :
    (x >>= f) = .ok b ↔ ∃ a, x = .ok a ∧ f a = .ok b := by
  cases x <;> simp [bind, Except.bind]

end Choices

structure ArgumentsValid (a : CommandLine.Arguments) : Prop where
  logLevel : ∀ t ∈ a.logLevel, ∃ l : Log.Level, Text.trim t ∈ l.spellings
  ice : ∀ t ∈ a.ice, ∃ i, Ice.ofDescriptor t = .ok i
  channel : ∀ t ∈ a.channel, IsName t

structure DocumentValid (d : Document) : Prop where
  address : ∀ t ∈ d.address, ∃ x, IpAddress.read? t = some x
  pingInterval : ∀ n ∈ d.pingInterval, 0 < n
  pongTime : ∀ n ∈ d.pongTime, 0 < n
  iceDescriptor : ∀ t ∈ d.iceDescriptor, ∃ i, Ice.ofDescriptor t = .ok i
  iceMembers : d.iceDescriptor.isSome → d.iceUri = none ∧ d.iceUsername = none ∧ d.icePassword = none
  logLevel : ∀ t ∈ d.logLevel, ∃ l : Log.Level, Text.trim t ∈ l.spellings
  logFormat : ∀ t ∈ d.logFormat, ∃ f : Log.Format, t = f.name
  channel : ∀ t ∈ d.channel, IsName t

def IceChosen (d : Document) (old new : Ice) : Prop :=
  match d.iceDescriptor with
  | some t => Ice.ofDescriptor t = .ok new
  | none => new.uri = d.iceUri.getD old.uri ∧ new.username = d.iceUsername.getD old.username ∧
      new.password = d.icePassword.getD old.password

structure Layered (a : CommandLine.Arguments) (d : Document) (s : Settings) : Prop where
  address : Chosen (fun t x => IpAddress.read? t = some x) d.address standard.address s.address
  port : s.port = (d.port.or a.port).getD standard.port
  tlsPort : Chosen (fun n p => p = if n = 0 then none else some n) (d.tlsPort.or a.tlsPort)
    standard.tlsPort s.tlsPort
  certificate : s.certificate = d.certificate.getD standard.certificate
  key : s.key = d.key.getD standard.key
  dhParameters : Chosen (fun path p => p = if path = "" then none else some path) d.dhParameters
    standard.dhParameters s.dhParameters
  pingInterval : s.pingInterval = d.pingInterval.getD standard.pingInterval
  pongTime : s.pongTime = d.pongTime.getD standard.pongTime
  handshakeTime : s.handshakeTime = standard.handshakeTime
  closingTime : s.closingTime = standard.closingTime
  ice : ∃ i, Chosen (fun t i => Ice.ofDescriptor t = .ok i) a.ice standard.ice i ∧
    IceChosen d i s.ice
  logLevel : Chosen (fun t l => Text.trim t ∈ l.spellings) (d.logLevel.or a.logLevel)
    standard.logLevel s.logLevel
  logFormat : Chosen (fun t f => t = f.name) d.logFormat standard.logFormat s.logFormat
  channel : s.channel = (d.channel.or a.channel).getD standard.channel

variable {a : CommandLine.Arguments} {d : Document} {s t : Settings}

lemma dhParametersOf_eq {path : String} :
    dhParametersOf path = if path = "" then none else some path := by
  rw [dhParametersOf]
  exact if_congr String.isEmpty_iff rfl rfl

lemma applyArguments_ok_iff : s.applyArguments a = .ok t ↔ ∃ l i c,
    Chosen (fun t l => Text.trim t ∈ l.spellings) a.logLevel s.logLevel l ∧
    Chosen (fun t i => Ice.ofDescriptor t = .ok i) a.ice s.ice i ∧
    Chosen (fun t c => IsName t ∧ c = t) a.channel s.channel c ∧
    t = { s with
      port := a.port.getD s.port
      tlsPort := (a.tlsPort.map tlsPortOf).getD s.tlsPort
      logLevel := l
      ice := i
      channel := c } := by
  simp only [applyArguments, bind_ok_iff, replace_ok_iff fun _ _ => readLevel_ok_iff,
    replace_ok_iff fun _ _ => readIce_ok_iff, replace_ok_iff fun _ _ => readChannel_ok_iff]
  constructor
  · rintro ⟨l, hl, i, hi, c, hc, h⟩
    exact ⟨l, i, c, hl, hi, hc, (Except.ok.inj h).symm⟩
  · rintro ⟨l, i, c, hl, hi, hc, rfl⟩
    exact ⟨l, hl, i, hi, c, hc, rfl⟩

lemma applyIce_ok_iff {old new : Ice} : applyIce d old = .ok new ↔ IceChosen d old new ∧
    (d.iceDescriptor.isSome → d.iceUri = none ∧ d.iceUsername = none ∧ d.icePassword = none) := by
  unfold applyIce IceChosen
  cases d.iceDescriptor with
  | none =>
    rw [Except.ok.injEq]
    constructor
    · rintro rfl
      exact ⟨⟨rfl, rfl, rfl⟩, fun h => absurd h (by simp)⟩
    · rintro ⟨⟨huri, husername, hpassword⟩, -⟩
      rw [← huri, ← husername, ← hpassword]
  | some t =>
    dsimp only
    split
    · rename_i h
      have hset : ¬ (d.iceUri = none ∧ d.iceUsername = none ∧ d.icePassword = none) := by
        rintro ⟨huri, husername, hpassword⟩
        simp [huri, husername, hpassword] at h
      exact ⟨fun he => absurd he (by simp), fun he => absurd (he.2 rfl) hset⟩
    · rename_i h
      rw [Bool.or_eq_true, Bool.or_eq_true, not_or, not_or] at h
      rw [readIce_ok_iff]
      refine ⟨fun he => ⟨he, fun _ => ⟨?_, ?_, ?_⟩⟩, fun he => he.1⟩
      · exact Option.not_isSome_iff_eq_none.mp h.1.1
      · exact Option.not_isSome_iff_eq_none.mp h.1.2
      · exact Option.not_isSome_iff_eq_none.mp h.2

lemma applyDocument_ok_iff : s.applyDocument d = .ok t ↔ ∃ x ping pong i l f c,
    Chosen (fun t x => IpAddress.read? t = some x) d.address s.address x ∧
    Chosen (fun n m => 0 < n ∧ m = n) d.pingInterval s.pingInterval ping ∧
    Chosen (fun n m => 0 < n ∧ m = n) d.pongTime s.pongTime pong ∧
    (IceChosen d s.ice i ∧
      (d.iceDescriptor.isSome → d.iceUri = none ∧ d.iceUsername = none ∧ d.icePassword = none)) ∧
    Chosen (fun t l => Text.trim t ∈ l.spellings) d.logLevel s.logLevel l ∧
    Chosen (fun t f => t = f.name) d.logFormat s.logFormat f ∧
    Chosen (fun t c => IsName t ∧ c = t) d.channel s.channel c ∧
    t = { s with
      address := x
      port := d.port.getD s.port
      tlsPort := (d.tlsPort.map tlsPortOf).getD s.tlsPort
      certificate := d.certificate.getD s.certificate
      key := d.key.getD s.key
      dhParameters := (d.dhParameters.map dhParametersOf).getD s.dhParameters
      pingInterval := ping
      pongTime := pong
      ice := i
      logLevel := l
      logFormat := f
      channel := c } := by
  simp only [applyDocument, bind_ok_iff, replace_ok_iff fun _ _ => readAddress_ok_iff,
    replace_ok_iff fun _ _ => readSeconds_ok_iff, replace_ok_iff fun _ _ => readLevel_ok_iff,
    replace_ok_iff fun _ _ => readFormat_ok_iff, replace_ok_iff fun _ _ => readChannel_ok_iff,
    applyIce_ok_iff]
  constructor
  · rintro ⟨x, hx, ping, hping, pong, hpong, i, hi, l, hl, f, hf, c, hc, h⟩
    exact ⟨x, ping, pong, i, l, f, c, hx, hping, hpong, hi, hl, hf, hc, (Except.ok.inj h).symm⟩
  · rintro ⟨x, ping, pong, i, l, f, c, hx, hping, hpong, hi, hl, hf, hc, rfl⟩
    exact ⟨x, hx, ping, hping, pong, hpong, i, hi, l, hl, f, hf, c, hc, rfl⟩

lemma exists_applyArguments_iff : (∃ t, s.applyArguments a = .ok t) ↔ ArgumentsValid a := by
  simp only [applyArguments_ok_iff]
  constructor
  · rintro ⟨_, l, i, c, hl, hi, hc, -⟩
    exact ⟨exists_chosen_iff.mp ⟨l, hl⟩, exists_chosen_iff.mp ⟨i, hi⟩,
      fun t ht => (exists_chosen_iff.mp ⟨c, hc⟩ t ht).elim fun _ h => h.1⟩
  · intro h
    obtain ⟨l, hl⟩ := exists_chosen_iff.mpr h.logLevel
    obtain ⟨i, hi⟩ := exists_chosen_iff.mpr h.ice
    have hchannel : ∀ t ∈ a.channel, ∃ c, IsName t ∧ c = t := fun t ht => ⟨t, h.channel t ht, rfl⟩
    obtain ⟨c, hc⟩ := exists_chosen_iff.mpr hchannel
    exact ⟨_, l, i, c, hl, hi, hc, rfl⟩

lemma exists_iceChosen {old : Ice} (h : ∀ t ∈ d.iceDescriptor, ∃ i, Ice.ofDescriptor t = .ok i) :
    ∃ new, IceChosen d old new := by
  unfold IceChosen
  cases hd : d.iceDescriptor with
  | some t => exact h t hd
  | none => exact ⟨⟨_, _, _⟩, rfl, rfl, rfl⟩

lemma IceChosen.valid {old new : Ice} (h : IceChosen d old new) :
    ∀ t ∈ d.iceDescriptor, ∃ i, Ice.ofDescriptor t = .ok i := by
  intro t ht
  rw [IceChosen, Option.mem_def.mp ht] at h
  exact ⟨new, h⟩

lemma exists_applyDocument_iff : (∃ t, s.applyDocument d = .ok t) ↔ DocumentValid d := by
  simp only [applyDocument_ok_iff]
  constructor
  · rintro ⟨_, x, ping, pong, i, l, f, c, hx, hping, hpong, ⟨hi, hmembers⟩, hl, hf, hc, -⟩
    exact {
      address := exists_chosen_iff.mp ⟨x, hx⟩
      pingInterval := fun n hn => (exists_chosen_iff.mp ⟨ping, hping⟩ n hn).elim fun _ h => h.1
      pongTime := fun n hn => (exists_chosen_iff.mp ⟨pong, hpong⟩ n hn).elim fun _ h => h.1
      iceDescriptor := hi.valid
      iceMembers := hmembers
      logLevel := exists_chosen_iff.mp ⟨l, hl⟩
      logFormat := exists_chosen_iff.mp ⟨f, hf⟩
      channel := fun t ht => (exists_chosen_iff.mp ⟨c, hc⟩ t ht).elim fun _ h => h.1 }
  · intro h
    have hping : ∀ n ∈ d.pingInterval, ∃ m, 0 < n ∧ m = n := fun n hn => ⟨n, h.pingInterval n hn, rfl⟩
    have hpong : ∀ n ∈ d.pongTime, ∃ m, 0 < n ∧ m = n := fun n hn => ⟨n, h.pongTime n hn, rfl⟩
    have hchannel : ∀ t ∈ d.channel, ∃ c, IsName t ∧ c = t := fun t ht => ⟨t, h.channel t ht, rfl⟩
    obtain ⟨x, hx⟩ := exists_chosen_iff.mpr h.address
    obtain ⟨ping, hping⟩ := exists_chosen_iff.mpr hping
    obtain ⟨pong, hpong⟩ := exists_chosen_iff.mpr hpong
    obtain ⟨i, hi⟩ := exists_iceChosen h.iceDescriptor
    obtain ⟨l, hl⟩ := exists_chosen_iff.mpr h.logLevel
    obtain ⟨f, hf⟩ := exists_chosen_iff.mpr h.logFormat
    obtain ⟨c, hc⟩ := exists_chosen_iff.mpr hchannel
    exact ⟨_, x, ping, pong, i, l, f, c, hx, hping, hpong, ⟨hi, h.iceMembers⟩, hl, hf, hc, rfl⟩

def layers (a : CommandLine.Arguments) (d : Document) : Except Fault Settings :=
  standard.applyArguments a >>= fun s => s.applyDocument d

lemma resolve_eq_layers {load : String → Option String} {path text : String}
    (hpath : a.config = some path) (htext : load path = some text) (hd : Document.read? text = some d) :
    resolve load a = layers a d := by
  rw [resolve, layers]
  cases standard.applyArguments a with
  | error f => rfl
  | ok s =>
    simp only [hpath, htext, applyText, hd]
    rfl

def fileSays (load : String → Option String) (a : CommandLine.Arguments) : Document :=
  ((a.config.bind load).bind Document.read?).getD {}

lemma layers_of_resolve {load : String → Option String} (h : resolve load a = .ok s) :
    layers a (fileSays load a) = .ok s := by
  rw [layers]
  rw [resolve] at h
  split at h
  · cases h
  · rename_i s₀ hs₀
    rw [hs₀]
    change s₀.applyDocument (fileSays load a) = .ok s
    rw [fileSays]
    split at h
    · rename_i hconfig
      rw [hconfig]
      exact h
    · rename_i path hconfig
      rw [hconfig, Option.bind_some]
      split at h
      · cases h
      · rename_i text htext
        rw [htext, Option.bind_some]
        rw [applyText] at h
        split at h
        · cases h
        · rename_i d hd
          rw [hd]
          exact h

lemma isName_standard : IsName standard.channel := ⟨by decide, by decide, by decide⟩

lemma isName_of_layers (h : layers a d = .ok t) : IsName t.channel := by
  obtain ⟨s, hs, ht⟩ := bind_ok_iff.mp h
  obtain ⟨_, _, c, -, -, hc, rfl⟩ := applyArguments_ok_iff.mp hs
  obtain ⟨_, _, _, _, _, _, c', -, -, -, -, -, -, hc', rfl⟩ := applyDocument_ok_iff.mp ht
  exact hc'.of_old (hc.of_old isName_standard)

lemma layered_of_layers (h : layers a d = .ok t) : Layered a d t := by
  obtain ⟨s, hs, ht⟩ := bind_ok_iff.mp h
  obtain ⟨l, i, c, hl, hi, hc, rfl⟩ := applyArguments_ok_iff.mp hs
  obtain ⟨x, ping, pong, i', l', f, c', hx, hping, hpong, ⟨hi', -⟩, hl', hf, hc', rfl⟩ :=
    applyDocument_ok_iff.mp ht
  exact {
    address := hx
    port := Option.getD_or.symm
    tlsPort := (chosen_map.mpr rfl).trans (chosen_map.mpr rfl)
    certificate := rfl
    key := rfl
    dhParameters := (chosen_map.mpr rfl).imp fun path p h => h.trans dhParametersOf_eq
    pingInterval := chosen_eq_iff.mp (hping.imp fun _ _ h => h.2)
    pongTime := chosen_eq_iff.mp (hpong.imp fun _ _ h => h.2)
    handshakeTime := rfl
    closingTime := rfl
    ice := ⟨i, hi, hi'⟩
    logLevel := hl.trans hl'
    logFormat := hf
    channel := chosen_eq_iff.mp ((hc.trans hc').imp fun _ _ h => h.2) }

theorem layers_ok_iff (a : CommandLine.Arguments) (d : Document) :
    ((∃ s, layers a d = .ok s) ↔ ArgumentsValid a ∧ DocumentValid d) ∧
    (∀ s, layers a d = .ok s → Layered a d s) ∧
    ∀ load path text, a.config = some path → load path = some text → Document.read? text = some d →
      resolve load a = layers a d := by
  refine ⟨?_, fun s => layered_of_layers, fun load path text => resolve_eq_layers⟩
  constructor
  · rintro ⟨t, ht⟩
    obtain ⟨s, hs, ht⟩ := bind_ok_iff.mp ht
    exact ⟨exists_applyArguments_iff.mp ⟨s, hs⟩, exists_applyDocument_iff.mp ⟨t, ht⟩⟩
  · rintro ⟨ha, hd⟩
    obtain ⟨s, hs⟩ := exists_applyArguments_iff.mpr ha
    obtain ⟨t, ht⟩ := exists_applyDocument_iff.mpr hd
    exact ⟨t, bind_ok_iff.mpr ⟨s, hs, ht⟩⟩

end Rendezvous.Settings
