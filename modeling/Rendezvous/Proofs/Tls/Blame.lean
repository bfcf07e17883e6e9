import Mathlib.Data.List.Infix
import Mathlib.Tactic.Lemma
import Rendezvous.Tls.Material

/-! Which file is blamed if an encrypted listener cannot start. What is wrong inside the file of the
key is said of that of the certificates; all else is said of the file where it is. -/

namespace Rendezvous.Tls

inductive Part where
  | certificate
  | key
  | dhParameters

def Paths.path? (p : Paths) : Part → Option String
  | .certificate => some p.certificate
  | .key => some p.key
  | .dhParameters => p.dhParameters

def Paths.Distinct (p : Paths) : Prop :=
  ∀ path part other, p.path? part = some path → p.path? other = some path → part = other

inductive Flawed : Part → Option (List UInt8) → Reason → Prop
  | absent (part : Part) : Flawed part none .missing
  | brokenChain {file : List UInt8} {found : List Pem.Section} {fault : Pem.Fault}
      (hfile : Pem.sections file = (found, some fault)) :
      Flawed .certificate (some file) .unreadable
  | noCertificate {file : List UInt8} {found : List Pem.Section}
      (hfile : Pem.sections file = (found, none)) (hnone : ∀ s ∈ found, s.kind ≠ .certificate) :
      Flawed .certificate (some file) .noCertificate
  | brokenKey {file : List UInt8} {found : List Pem.Section} {fault : Pem.Fault}
      (hfile : Pem.sections file = (found, some fault)) (hnone : ∀ s ∈ found, ¬ s.kind.isPrivateKey) :
      Flawed .key (some file) .unreadable
  | noPrivateKey {file : List UInt8} {found : List Pem.Section}
      (hfile : Pem.sections file = (found, none)) (hnone : ∀ s ∈ found, ¬ s.kind.isPrivateKey) :
      Flawed .key (some file) .noPrivateKey
  | noDhParameters {file : List UInt8} (hmark : ¬ dhMark <:+: file) :
      Flawed .dhParameters (some file) .noDhParameters

variable {α β ε : Type} {x : Except ε α} {g : α → Except ε β} {e : ε}
  {file chainFile keyFile : List UInt8} {file? : String → Option (List UInt8)} {p : Paths}
  {path q : String} {r : Reason} {f : Fault} {part : Part}

lemma bind_error_iff : (x >>= g) = .error e ↔ x = .error e ∨ ∃ a, x = .ok a ∧ g a = .error e := by
  cases x <;> simp [bind, Except.bind]

lemma dhMark_ne_nil : dhMark ≠ [] := by decide +kernel

lemma hasDhParameters_iff : hasDhParameters file ↔ dhMark <:+: file := by
  induction file with
  | nil => simp [hasDhParameters, dhMark_ne_nil]
  | cons b bs ih =>
    rw [hasDhParameters, Bool.or_eq_true, List.isPrefixOf_iff_prefix, ih, List.infix_cons_iff]

lemma chain_eq_nil {found : List Pem.Section} :
    (found.filter fun s => s.kind == .certificate).map Pem.Section.der = [] ↔
      ∀ s ∈ found, s.kind ≠ .certificate := by
  simp [List.filter_eq_nil_iff]

lemma readChain_error_iff : readChain file = .error r ↔ Flawed .certificate (some file) r := by
  rw [readChain, Pem.certificates]
  constructor
  · intro h
    rcases hfile : Pem.sections file with ⟨found, _ | fault⟩
    · rw [hfile] at h
      dsimp only at h
      split at h
      · rename_i hread
        cases hread
      · rename_i hread
        cases h
        exact .noCertificate hfile (chain_eq_nil.mp (Except.ok.inj hread))
      · cases h
    · rw [hfile] at h
      cases h
      exact .brokenChain hfile
  · intro h
    cases h with
    | brokenChain hfile => rw [hfile]
    | noCertificate hfile hnone =>
      rw [hfile]
      dsimp only
      rw [chain_eq_nil.mpr hnone]

lemma readKey_error_iff : readKey file = .error r ↔ Flawed .key (some file) r := by
  rw [readKey, Pem.privateKey?]
  constructor
  · intro h
    rcases hfile : Pem.sections file with ⟨found, fault⟩
    rw [hfile] at h
    dsimp only at h
    cases hkey : found.find? fun s => s.kind.isPrivateKey with
    | some key =>
      rw [hkey] at h
      cases h
    | none =>
      rw [hkey] at h
      cases fault with
      | none =>
        cases h
        exact .noPrivateKey hfile (List.find?_eq_none.mp hkey)
      | some fault =>
        cases h
        exact .brokenKey hfile (List.find?_eq_none.mp hkey)
  · intro h
    cases h with
    | brokenKey hfile hnone =>
      rw [hfile]
      dsimp only
      rw [List.find?_eq_none.mpr hnone]
    | noPrivateKey hfile hnone =>
      rw [hfile]
      dsimp only
      rw [List.find?_eq_none.mpr hnone]

lemma read_error_iff : Identity.read chainFile keyFile = .error r ↔
    Flawed .certificate (some chainFile) r ∨
      (∀ s, ¬ Flawed .certificate (some chainFile) s) ∧ Flawed .key (some keyFile) r := by
  simp only [← readChain_error_iff, ← readKey_error_iff, Identity.read, bind_error_iff]
  cases readChain chainFile with
  | error s => simp
  | ok chain => simp [pure, Except.pure]

lemma open?_error_iff : open? file? path = .error f ↔ file? path = none ∧ f = .material path .missing := by
  rw [open?]
  cases file? path <;> simp [eq_comm]

lemma open?_ok_iff : open? file? path = .ok file ↔ file? path = some file := by
  rw [open?]
  cases file? path <;> simp

lemma flawed_none_iff : Flawed part none r ↔ r = .missing := by
  constructor
  · rintro ⟨⟩
    rfl
  · rintro rfl
    exact .absent part

lemma flawed_mark_iff : Flawed .dhParameters (some file) r ↔
    ¬ hasDhParameters file ∧ r = .noDhParameters := by
  rw [hasDhParameters_iff]
  constructor
  · intro h
    cases h with
    | noDhParameters hmark => exact ⟨hmark, rfl⟩
  · rintro ⟨hmark, rfl⟩
    exact .noDhParameters hmark

lemma checkFile_error_iff : checkDhParameters file? (some q) = .error f ↔
    ∃ r, Flawed .dhParameters (file? q) r ∧ f = .material q r := by
  dsimp only [checkDhParameters, open?]
  cases file? q with
  | none => simp [flawed_none_iff, eq_comm]
  | some file => cases hmark : hasDhParameters file <;> simp [flawed_mark_iff, hmark, eq_comm]

lemma checkDhParameters_error_iff : checkDhParameters file? p.dhParameters = .error f ↔
    ∃ q r, p.dhParameters = some q ∧ Flawed .dhParameters (file? q) r ∧ f = .material q r := by
  cases p.dhParameters with
  | none => simp [checkDhParameters]
  | some q => simp [checkFile_error_iff]

def Sound (file? : String → Option (List UInt8)) (p : Paths) (part : Part) : Prop :=
  ∀ q r, p.path? part = some q → ¬ Flawed part (file? q) r

lemma checkDhParameters_ok_iff : checkDhParameters file? p.dhParameters = .ok () ↔
    Sound file? p .dhParameters := by
  constructor
  · intro h q r hq hflawed
    have herror := checkDhParameters_error_iff.mpr ⟨q, r, hq, hflawed, rfl⟩
    rw [h] at herror
    cases herror
  · intro h
    cases hcheck : checkDhParameters file? p.dhParameters with
    | error f =>
      obtain ⟨q, r, hq, hflawed, -⟩ := checkDhParameters_error_iff.mp hcheck
      exact absurd hflawed (h q r hq)
    | ok u => rfl

/-- What is wrong is looked for in this order, and the last of it is not said of the file where it is. -/
inductive Told (file? : String → Option (List UInt8)) (p : Paths) : String → Reason → Prop
  | certificateAbsent (hc : file? p.certificate = none) : Told file? p p.certificate .missing
  | keyAbsent {chainFile : List UInt8} (hc : file? p.certificate = some chainFile)
      (hk : file? p.key = none) : Told file? p p.key .missing
  | dhParameters {chainFile keyFile : List UInt8} {q : String} {r : Reason}
      (hc : file? p.certificate = some chainFile) (hk : file? p.key = some keyFile)
      (hq : p.dhParameters = some q) (h : Flawed .dhParameters (file? q) r) : Told file? p q r
  | certificate {chainFile keyFile : List UInt8} {r : Reason}
      (hc : file? p.certificate = some chainFile) (hk : file? p.key = some keyFile)
      (hd : Sound file? p .dhParameters) (h : Flawed .certificate (some chainFile) r) :
      Told file? p p.certificate r
  | key {chainFile keyFile : List UInt8} {r : Reason}
      (hc : file? p.certificate = some chainFile) (hk : file? p.key = some keyFile)
      (hd : Sound file? p .dhParameters) (hsound : ∀ s, ¬ Flawed .certificate (some chainFile) s)
      (h : Flawed .key (some keyFile) r) : Told file? p p.certificate r

lemma load_of_check (hc : file? p.certificate = some chainFile) (hk : file? p.key = some keyFile)
    (h : checkDhParameters file? p.dhParameters = .error f) : load file? p = .error f := by
  rw [load, open?_ok_iff.mpr hc, open?_ok_iff.mpr hk, h]
  rfl

lemma load_of_read (hc : file? p.certificate = some chainFile) (hk : file? p.key = some keyFile)
    (hd : Sound file? p .dhParameters) (h : Identity.read chainFile keyFile = .error r) :
    load file? p = .error (.material p.certificate r) := by
  simp only [load, open?_ok_iff.mpr hc, open?_ok_iff.mpr hk, checkDhParameters_ok_iff.mpr hd, h, bind,
    Except.bind]

lemma told_of_load (h : load file? p = .error (.material path r)) : Told file? p path r := by
  rw [load, bind_error_iff] at h
  rcases h with h | ⟨chainFile, hc, h⟩
  · obtain ⟨hc, hf⟩ := open?_error_iff.mp h
    cases hf
    exact .certificateAbsent hc
  rw [open?_ok_iff] at hc
  rw [bind_error_iff] at h
  rcases h with h | ⟨keyFile, hk, h⟩
  · obtain ⟨hk, hf⟩ := open?_error_iff.mp h
    cases hf
    exact .keyAbsent hc hk
  rw [open?_ok_iff] at hk
  rw [bind_error_iff] at h
  rcases h with h | ⟨_, hd, h⟩
  · obtain ⟨q, s, hq, hflawed, hf⟩ := checkDhParameters_error_iff.mp h
    cases hf
    exact .dhParameters hc hk hq hflawed
  rw [checkDhParameters_ok_iff] at hd
  split at h
  · rename_i reason hread
    cases h
    rcases read_error_iff.mp hread with hflawed | ⟨hsound, hflawed⟩
    · exact .certificate hc hk hd hflawed
    · exact .key hc hk hd hsound hflawed
  · split at h <;> cases h

lemma load_of_told (h : Told file? p path r) : load file? p = .error (.material path r) := by
  cases h with
  | certificateAbsent hc =>
    rw [load, open?_error_iff.mpr ⟨hc, rfl⟩]
    rfl
  | keyAbsent hc hk =>
    rw [load, open?_ok_iff.mpr hc, open?_error_iff.mpr ⟨hk, rfl⟩]
    rfl
  | dhParameters hc hk hq h =>
    exact load_of_check hc hk (checkDhParameters_error_iff.mpr ⟨path, r, hq, h, rfl⟩)
  | certificate hc hk hd h => exact load_of_read hc hk hd (read_error_iff.mpr (.inl h))
  | key hc hk hd hsound h => exact load_of_read hc hk hd (read_error_iff.mpr (.inr ⟨hsound, h⟩))

lemma load_material_iff : load file? p = .error (.material path r) ↔ Told file? p path r :=
  ⟨told_of_load, load_of_told⟩

lemma sound_iff (hpath : p.path? part = some path) :
    Sound file? p part ↔ ∀ r, ¬ Flawed part (file? path) r := by
  constructor
  · intro h r
    exact h path r hpath
  · intro h q r hq
    obtain rfl := Option.some.inj (hpath.symm.trans hq)
    exact h r

structure AtFault (file? : String → Option (List UInt8)) (p : Paths) (path : String) : Prop where
  exists_part : ∃ part, p.path? part = some path
  flawed : ∀ part, p.path? part = some path → ∃ r, Flawed part (file? path) r

structure KeyAlone (file? : String → Option (List UInt8)) (p : Paths) : Prop where
  certificate : Sound file? p .certificate
  dhParameters : Sound file? p .dhParameters
  key : ∃ file r, file? p.key = some file ∧ Flawed .key (some file) r

lemma KeyAlone.told (h : KeyAlone file? p) : ∃ r, Told file? p p.certificate r := by
  obtain ⟨keyFile, r, hk, hflawed⟩ := h.key
  have hsound : ∀ r, ¬ Flawed .certificate (file? p.certificate) r := (sound_iff rfl).mp h.certificate
  cases hc : file? p.certificate with
  | none => exact absurd (hc ▸ .absent _) (hsound .missing)
  | some chainFile => exact ⟨r, .key hc hk h.dhParameters (hc ▸ hsound) hflawed⟩

lemma Told.flawed (h : Told file? p path r) : ∃ part q, p.path? part = some q ∧
    Flawed part (file? q) r ∧ (q = path ∨ KeyAlone file? p) := by
  cases h with
  | certificateAbsent hc => exact ⟨.certificate, _, rfl, hc ▸ .absent _, .inl rfl⟩
  | keyAbsent _ hk => exact ⟨.key, _, rfl, hk ▸ .absent _, .inl rfl⟩
  | dhParameters _ _ hq h => exact ⟨.dhParameters, _, hq, h, .inl rfl⟩
  | certificate hc _ _ h => exact ⟨.certificate, _, rfl, hc ▸ h, .inl rfl⟩
  | key hc hk hd hsound h =>
    have hcertificate : Sound file? p .certificate := (sound_iff rfl).mpr (hc ▸ hsound)
    exact ⟨.key, _, rfl, hk ▸ h, .inr ⟨hcertificate, hd, _, _, hk, h⟩⟩

lemma Told.atFault (h : Told file? p path r) (hp : p.Distinct) (halone : ¬ KeyAlone file? p) :
    AtFault file? p path := by
  obtain ⟨part, q, hq, hflawed, rfl | hkey⟩ := h.flawed
  · refine ⟨⟨part, hq⟩, fun other hother => ?_⟩
    obtain rfl := hp q part other hq hother
    exact ⟨r, hflawed⟩
  · exact absurd hkey halone

lemma not_sound_iff : ¬ Sound file? p part ↔
    ∃ q r, p.path? part = some q ∧ Flawed part (file? q) r := by
  simp [Sound]

lemma exists_told (h : ¬ Sound file? p part) : ∃ path r, Told file? p path r := by
  cases hc : file? p.certificate with
  | none => exact ⟨_, _, .certificateAbsent hc⟩
  | some chainFile =>
    cases hk : file? p.key with
    | none => exact ⟨_, _, .keyAbsent hc hk⟩
    | some keyFile =>
      by_cases hd : Sound file? p .dhParameters
      · by_cases hsound : ∀ r, ¬ Flawed .certificate (some chainFile) r
        · cases part with
          | certificate => exact absurd ((sound_iff rfl).mpr (hc ▸ hsound)) h
          | key =>
            obtain ⟨q, r, hq, hflawed⟩ := not_sound_iff.mp h
            obtain rfl := Option.some.inj hq
            exact ⟨_, r, .key hc hk hd hsound (hk ▸ hflawed)⟩
          | dhParameters => exact absurd hd h
        · obtain ⟨r, hflawed⟩ := not_forall_not.mp hsound
          exact ⟨_, r, .certificate hc hk hd hflawed⟩
      · obtain ⟨q, r, hq, hflawed⟩ := not_sound_iff.mp hd
        exact ⟨q, r, .dhParameters hc hk hq hflawed⟩

theorem blames_flawed_iff (hp : p.Distinct) :
    ((∀ path r, load file? p = .error (.material path r) → AtFault file? p path) ↔
      ¬ KeyAlone file? p) ∧
    (∀ path r, load file? p = .error (.material path r) ↔ Told file? p path r) ∧
    ((∃ path r, load file? p = .error (.material path r)) ↔ ∃ part, ¬ Sound file? p part) := by
  refine ⟨⟨fun h halone => ?_, fun halone path r h => ?_⟩, fun path r => load_material_iff, ?_⟩
  · obtain ⟨r, htold⟩ := halone.told
    obtain ⟨s, hflawed⟩ := (h _ r (load_of_told htold)).flawed .certificate rfl
    exact halone.certificate _ s rfl hflawed
  · exact (told_of_load h).atFault hp halone
  · simp only [load_material_iff]
    constructor
    · rintro ⟨path, r, h⟩
      obtain ⟨part, q, hq, hflawed, -⟩ := h.flawed
      exact ⟨part, not_sound_iff.mpr ⟨q, r, hq, hflawed⟩⟩
    · rintro ⟨part, h⟩
      exact exists_told h

def somePaths : Paths := ⟨"cert.pem", "key.pem", some "dh.pem"⟩

lemma distinct_somePaths : somePaths.Distinct := by
  intro path part other hpart hother
  have hsame : somePaths.path? part = somePaths.path? other := hpart.trans hother.symm
  cases part <;> cases other <;> first | rfl | exact absurd hsame (by decide)

def someChain : List UInt8 :=
  Text.encode "-----BEGIN CERTIFICATE-----\nAAAA\n-----END CERTIFICATE-----\n"

def someFiles (key? : Option (List UInt8)) (path : String) : Option (List UInt8) :=
  if path = "cert.pem" then some someChain
  else if path = "key.pem" then key?
  else if path = "dh.pem" then some dhMark
  else none

theorem blames_flawed_iff_keyAbsent : somePaths.Distinct ∧
    load (someFiles none) somePaths = .error (.material "key.pem" .missing) ∧
    AtFault (someFiles none) somePaths "key.pem" := by
  have hload : load (someFiles none) somePaths = .error (.material "key.pem" .missing) := by
    decide +kernel
  have halone : ¬ KeyAlone (someFiles none) somePaths := by
    rintro ⟨-, -, file, r, hfile, -⟩
    cases hfile
  exact ⟨distinct_somePaths, hload,
    (blames_flawed_iff distinct_somePaths).1.mpr halone "key.pem" .missing hload⟩

theorem certificates_blamed_for_key : somePaths.Distinct ∧
    load (someFiles (some [])) somePaths = .error (.material "cert.pem" .noPrivateKey) ∧
    (∀ part, Sound (someFiles (some [])) somePaths part ↔ part ≠ .key) ∧
    ¬ AtFault (someFiles (some [])) somePaths "cert.pem" := by
  have hload : load (someFiles (some [])) somePaths = .error (.material "cert.pem" .noPrivateKey) := by
    decide +kernel
  have hcertificate : Sound (someFiles (some [])) somePaths .certificate := by
    have hpath : somePaths.path? .certificate = some "cert.pem" := rfl
    have hread : readChain someChain = .ok [[0, 0, 0]] := by decide +kernel
    rw [sound_iff hpath]
    intro r h
    have herror : readChain someChain = .error r := readChain_error_iff.mpr h
    rw [hread] at herror
    cases herror
  have hdhParameters : Sound (someFiles (some [])) somePaths .dhParameters :=
    checkDhParameters_ok_iff.mp (by decide +kernel)
  have hkey : ¬ Sound (someFiles (some [])) somePaths .key := by
    rw [not_sound_iff]
    exact ⟨"key.pem", .noPrivateKey, rfl, .noPrivateKey rfl (by simp)⟩
  refine ⟨distinct_somePaths, hload, ?_, ?_⟩
  · intro part
    cases part <;> simp [hcertificate, hdhParameters, hkey]
  · intro h
    obtain ⟨r, hflawed⟩ := h.flawed .certificate rfl
    exact hcertificate "cert.pem" r rfl hflawed

end Rendezvous.Tls
