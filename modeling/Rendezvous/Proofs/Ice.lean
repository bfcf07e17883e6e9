import Mathlib.Data.List.Basic
import Mathlib.Data.String.Basic
import Mathlib.Tactic.Lemma
import Rendezvous.Failure
import Rendezvous.Proofs.Text.Split
import Rendezvous.Proofs.Text.Words

namespace Rendezvous.Ice

open Text (Blanks Solid Spaced)

variable {uri login user password : List Char} {ws more : List (List Char)} {ice : Ice} {f : Fault}
  {d e : String}

def HasScheme (uri : List Char) : Prop :=
  ∃ scheme ∈ ["turn:", "turns:", "stun:", "stuns:"], scheme.toList <+: uri

lemma hasScheme_iff : hasScheme uri = true ↔ HasScheme uri := by
  rw [hasScheme, List.any_eq_true]
  simp only [List.isPrefixOf_iff_prefix]
  rfl

lemma HasScheme.ne_nil (h : HasScheme uri) : uri ≠ [] := by
  rintro rfl
  obtain ⟨scheme, hmem, hprefix⟩ := h
  rw [List.prefix_nil] at hprefix
  revert hprefix
  revert hmem scheme
  decide

inductive Describes : List (List Char) → Ice → Prop
  | nothing : Describes [] none
  | address {uri : List Char} (huri : HasScheme uri) : Describes [uri] ⟨String.ofList uri, "", ""⟩
  | login {uri user password : List Char} (huri : HasScheme uri) (huser : ':' ∉ user) :
      Describes [uri, user ++ ':' :: password]
        ⟨String.ofList uri, String.ofList user, String.ofList password⟩

/-- Of several things that are wrong the first is told: the address, then the credentials, then what
is too much. -/
inductive Spoils : List (List Char) → Fault → Prop
  | scheme {uri : List Char} {more : List (List Char)} (huri : ¬ HasScheme uri) :
      Spoils (uri :: more) .scheme
  | credentials {uri login : List Char} {more : List (List Char)} (huri : HasScheme uri)
      (hlogin : ':' ∉ login) : Spoils (uri :: login :: more) .credentials
  | surplus {uri login extra : List Char} {more : List (List Char)} (huri : HasScheme uri)
      (hlogin : ':' ∈ login) : Spoils (uri :: login :: extra :: more) .surplus

lemma Describes.ofWords (h : Describes ws ice) : ofWords ws = .ok ice := by
  cases h with
  | nothing => rfl
  | address huri => rw [Ice.ofWords, if_pos (hasScheme_iff.mpr huri)]
  | login huri huser =>
    rw [Ice.ofWords, if_pos (hasScheme_iff.mpr huri)]
    simp only [Text.splitFirst?_append huser, List.isEmpty_nil, if_true]

lemma Spoils.ofWords (h : Spoils ws f) : ofWords ws = .error f := by
  cases h with
  | scheme huri => exact if_neg (mt hasScheme_iff.mp huri)
  | credentials huri hlogin =>
    rw [Ice.ofWords, if_pos (hasScheme_iff.mpr huri)]
    simp only [Text.splitFirst?_eq_none_iff.mpr hlogin]
  | surplus huri hlogin =>
    obtain ⟨user, password, rfl, huser⟩ := List.eq_append_cons_of_mem hlogin
    rw [Ice.ofWords, if_pos (hasScheme_iff.mpr huri)]
    simp only [Text.splitFirst?_append huser, List.isEmpty_cons, Bool.false_eq_true, if_false]

lemma describes_or_spoils (ws : List (List Char)) : (∃ ice, Describes ws ice) ∨ ∃ f, Spoils ws f := by
  cases ws with
  | nil => exact .inl ⟨_, .nothing⟩
  | cons uri rest =>
    by_cases huri : HasScheme uri
    · cases rest with
      | nil => exact .inl ⟨_, .address huri⟩
      | cons login more =>
        by_cases hlogin : ':' ∈ login
        · cases more with
          | nil =>
            obtain ⟨user, password, rfl, huser⟩ := List.eq_append_cons_of_mem hlogin
            exact .inl ⟨_, .login huri huser⟩
          | cons extra more => exact .inr ⟨_, .surplus huri hlogin⟩
        · exact .inr ⟨_, .credentials huri hlogin⟩
    · exact .inr ⟨_, .scheme huri⟩

lemma ofWords_ok_iff : ofWords ws = .ok ice ↔ Describes ws ice := by
  constructor
  · intro h
    rcases describes_or_spoils ws with ⟨other, ho⟩ | ⟨f, hf⟩
    · obtain rfl := Except.ok.inj (ho.ofWords.symm.trans h)
      exact ho
    · exact absurd (hf.ofWords.symm.trans h) (by simp)
  · exact Describes.ofWords

lemma ofWords_error_iff : ofWords ws = .error f ↔ Spoils ws f := by
  constructor
  · intro h
    rcases describes_or_spoils ws with ⟨ice, hi⟩ | ⟨other, ho⟩
    · exact absurd (hi.ofWords.symm.trans h) (by simp)
    · obtain rfl := Except.error.inj (ho.ofWords.symm.trans h)
      exact ho
  · exact Spoils.ofWords

lemma ofDescriptor_eq (h : Spaced ws d.toList) : ofDescriptor d = ofWords ws := by
  rw [ofDescriptor, h.words_eq]

structure Writable (ice : Ice) : Prop where
  scheme : HasScheme ice.uri.toList
  uri : Solid ice.uri.toList
  username : Solid ice.username.toList
  password : Solid ice.password.toList
  colon : ':' ∉ ice.username.toList

lemma Writable.ofWords (h : ice.Writable) :
    ofWords [ice.uri.toList, ice.username.toList ++ ':' :: ice.password.toList] = .ok ice := by
  have hread : Ice.ofWords [_, _ ++ ':' :: ice.password.toList] = .ok _ :=
    (Describes.login h.scheme h.colon).ofWords
  rwa [String.ofList_toList, String.ofList_toList, String.ofList_toList] at hread

lemma Writable.ofDescriptor (h : ice.Writable)
    (hd : Spaced [ice.uri.toList, ice.username.toList ++ ':' :: ice.password.toList] d.toList) :
    ofDescriptor d = .ok ice := by
  rw [ofDescriptor_eq hd, h.ofWords]

lemma Describes.writable (h : Describes ws ice) (hsolid : ∀ w ∈ ws, w ≠ [] ∧ Solid w) (hne : ws ≠ []) :
    ice.Writable := by
  cases h with
  | nothing => exact absurd rfl hne
  | address huri =>
    exact {
      scheme := by rwa [String.toList_ofList]
      uri := by
        rw [String.toList_ofList]
        exact (hsolid _ (by simp)).2
      username := Text.solid_nil
      password := Text.solid_nil
      colon := List.not_mem_nil }
  | login huri huser =>
    have hlogin := (hsolid _ (List.mem_cons_of_mem _ List.mem_cons_self)).2
    exact {
      scheme := by rwa [String.toList_ofList]
      uri := by
        rw [String.toList_ofList]
        exact (hsolid _ List.mem_cons_self).2
      username := by
        rw [String.toList_ofList]
        exact fun c hc => hlogin c (List.mem_append_left _ hc)
      password := by
        rw [String.toList_ofList]
        exact fun c hc => hlogin c (List.mem_append_right _ (List.mem_cons_of_mem _ hc))
      colon := by rwa [String.toList_ofList] }

lemma read_ok_iff : Ice.read d = .ok ice ↔ ofDescriptor d = .ok ice := by
  rw [Ice.read]
  cases ofDescriptor d <;> simp

lemma reason_injective {g : Fault} (h : f.reason = g.reason) : f = g := by
  revert h
  cases f <;> cases g <;> decide

lemma read_error_iff : Ice.read d = .error (.iceDescriptor d f.reason) ↔ ofDescriptor d = .error f := by
  rw [Ice.read]
  cases ofDescriptor d with
  | ok ice => simp
  | error g =>
    simp only [Except.error.injEq, Failure.iceDescriptor.injEq, true_and]
    exact ⟨reason_injective, fun h => h ▸ rfl⟩

lemma exists_describes_iff : (∃ ice, Describes ws ice) ↔ ws = [] ∨ (∃ uri, ws = [uri] ∧ HasScheme uri) ∨
    ∃ uri login, ws = [uri, login] ∧ HasScheme uri ∧ ':' ∈ login := by
  constructor
  · rintro ⟨ice, h⟩
    cases h with
    | nothing => exact .inl rfl
    | address huri => exact .inr (.inl ⟨_, rfl, huri⟩)
    | login huri _ =>
      exact .inr (.inr ⟨_, _, rfl, huri, List.mem_append_right _ List.mem_cons_self⟩)
  · rintro (rfl | ⟨uri, rfl, huri⟩ | ⟨uri, login, rfl, huri, hlogin⟩)
    · exact ⟨_, .nothing⟩
    · exact ⟨_, .address huri⟩
    · obtain ⟨user, password, rfl, huser⟩ := List.eq_append_cons_of_mem hlogin
      exact ⟨_, .login huri huser⟩

lemma Writable.read (h : ice.Writable) {before between behind : List Char} (hbefore : Blanks before)
    (hbetween : Blanks between) (hbehind : Blanks behind) (hgap : between ≠ [])
    (hd : d.toList = before ++ (ice.uri.toList ++ (between ++
      ((ice.username.toList ++ ':' :: ice.password.toList) ++ behind)))) :
    Ice.read d = .ok ice := by
  have hlogin : Solid (ice.username.toList ++ ':' :: ice.password.toList) := by
    apply h.username.append
    rintro c (_ | ⟨_, hc⟩)
    · rfl
    · exact h.password c hc
  apply read_ok_iff.mpr
  apply h.ofDescriptor
  rw [hd]
  exact Text.spaced_two hbefore hbetween hbehind hgap h.scheme.ne_nil (by simp) h.uri hlogin

lemma Writable.read_descriptor (h : ice.Writable) : Ice.read ice.descriptor = .ok ice := by
  have hspace : Blanks [' '] := by
    rintro c (_ | ⟨_, hc⟩)
    · rfl
    · exact absurd hc List.not_mem_nil
  apply h.read Text.blanks_nil hspace Text.blanks_nil (by simp)
  simp [descriptor]

theorem descriptors_read :
    (∀ d, ∃ ws, (∀ vs, Spaced vs d.toList ↔ vs = ws) ∧
      ((∃ ice, Ice.read d = .ok ice) ↔ ws = [] ∨ (∃ uri, ws = [uri] ∧ HasScheme uri) ∨
        ∃ uri login, ws = [uri, login] ∧ HasScheme uri ∧ ':' ∈ login) ∧
      (∀ f, Ice.read d = .error (.iceDescriptor d f.reason) ↔ Spoils ws f) ∧
      (∀ e, Spaced ws e.toList → (∀ ice, Ice.read e = .ok ice ↔ Ice.read d = .ok ice) ∧
        ∀ f : Fault, Ice.read e = .error (.iceDescriptor e f.reason) ↔
          Ice.read d = .error (.iceDescriptor d f.reason)) ∧
      (ws = [] → Ice.read d = .ok none) ∧
      (ws ≠ [] → ∀ ice, Ice.read d = .ok ice → Ice.read ice.descriptor = .ok ice)) ∧
    ∀ ice d before between behind, HasScheme ice.uri.toList → Solid ice.uri.toList →
      Solid ice.username.toList → ':' ∉ ice.username.toList → Solid ice.password.toList →
      Blanks before → Blanks between → between ≠ [] → Blanks behind →
      d.toList = before ++ (ice.uri.toList ++ (between ++
        ((ice.username.toList ++ ':' :: ice.password.toList) ++ behind))) →
      Ice.read d = .ok ice := by
  constructor
  · intro d
    have hwords : Spaced (Text.words d.toList) d.toList := Text.spaced_words d.toList
    have hok : ∀ ice, Ice.read d = .ok ice ↔ Describes (Text.words d.toList) ice := by
      intro ice
      rw [read_ok_iff, ofDescriptor_eq hwords, ofWords_ok_iff]
    refine ⟨Text.words d.toList, fun vs => ?_, ?_, fun f => ?_, fun e he => ?_, fun hnil => ?_,
      fun hne ice hice => ?_⟩
    · rw [← Text.words_eq_iff]
      exact eq_comm
    · simp only [hok]
      exact exists_describes_iff
    · rw [read_error_iff, ofDescriptor_eq hwords, ofWords_error_iff]
    · have hsame : ofDescriptor e = ofDescriptor d := by rw [ofDescriptor_eq he, ofDescriptor_eq hwords]
      exact ⟨fun ice => by rw [read_ok_iff, read_ok_iff, hsame],
        fun f => by rw [read_error_iff, read_error_iff, hsame]⟩
    · rw [hok, hnil]
      exact .nothing
    · exact (((hok ice).mp hice).writable hwords.solid hne).read_descriptor
  · intro ice d before between behind hscheme huri husername hcolon hpassword hbefore hbetween hgap hbehind
    exact Writable.read ⟨hscheme, huri, husername, hpassword, hcolon⟩ hbefore hbetween hbehind hgap

end Rendezvous.Ice
