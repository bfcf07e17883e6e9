import Mathlib.Tactic.Lemma
import Rendezvous.Settings.Basic

namespace Rendezvous

def Log.Level.spellings : Log.Level → List String
  | .trace => ["trace", "0"]
  | .debug => ["debug", "1"]
  | .info => ["info", "2"]
  | .warn => ["warn", "3"]
  | .error => ["error", "4", "5"]

def Log.Format.name : Log.Format → String
  | .text => "text"
  | .json => "json"

namespace Settings

variable {t : String} {n m : Nat}

lemma ofName?_eq_some_iff {l : Log.Level} : Log.Level.ofName? t = some l ↔ t ∈ l.spellings := by
  constructor
  · intro h
    unfold Log.Level.ofName? at h
    split at h <;> cases h <;> simp [Log.Level.spellings]
  · cases l <;> simp only [Log.Level.spellings, List.mem_cons, List.not_mem_nil, or_false]
    case error => rintro (rfl | rfl | rfl) <;> rfl
    all_goals rintro (rfl | rfl) <;> rfl

lemma readLevel_ok_iff {l : Log.Level} : readLevel t = .ok l ↔ Text.trim t ∈ l.spellings := by
  rw [← ofName?_eq_some_iff, readLevel, Log.readLevel]
  cases Log.Level.ofName? (Text.trim t) <;> simp

lemma readFormat_ok_iff {f : Log.Format} : readFormat t = .ok f ↔ t = f.name := by
  have hname : Log.Format.ofName? t = some f ↔ t = f.name := by
    constructor
    · intro h
      unfold Log.Format.ofName? at h
      split at h <;> cases h <;> rfl
    · rintro rfl
      cases f <;> rfl
  rw [← hname, readFormat, Log.readFormat]
  cases Log.Format.ofName? t <;> simp

lemma readIce_ok_iff {onCommandLine : Bool} {i : Ice} :
    readIce onCommandLine t = .ok i ↔ Ice.ofDescriptor t = .ok i := by
  unfold readIce
  cases Ice.ofDescriptor t <;> simp

lemma readAddress_ok_iff {x : IpAddress} : readAddress t = .ok x ↔ IpAddress.read? t = some x := by
  unfold readAddress
  cases IpAddress.read? t <;> simp

structure IsName (t : String) : Prop where
  nonempty : t ≠ ""
  slash : '/' ∉ t.toList
  backslash : '\\' ∉ t.toList

lemma isChannelName_iff : isChannelName t ↔ IsName t := by
  have hall : (t.toList.all fun c => c ≠ '/' && c ≠ '\\') ↔ '/' ∉ t.toList ∧ '\\' ∉ t.toList := by
    simp only [List.all_eq_true, Bool.and_eq_true, decide_eq_true_eq]
    constructor
    · intro h
      exact ⟨fun hc => (h _ hc).1 rfl, fun hc => (h _ hc).2 rfl⟩
    · rintro ⟨hslash, hback⟩ c hc
      exact ⟨fun he => hslash (he ▸ hc), fun he => hback (he ▸ hc)⟩
  rw [isChannelName, Bool.and_eq_true, hall, Bool.not_eq_true', String.isEmpty_eq_false_iff]
  exact ⟨fun h => ⟨h.1, h.2.1, h.2.2⟩, fun h => ⟨h.nonempty, h.slash, h.backslash⟩⟩

lemma readChannel_ok_iff {c : String} : readChannel t = .ok c ↔ IsName t ∧ c = t := by
  rw [← isChannelName_iff, readChannel]
  split
  · rename_i h
    rw [Except.ok.injEq]
    exact ⟨fun he => ⟨h, he.symm⟩, fun he => he.2.symm⟩
  · rename_i h
    exact ⟨fun he => absurd he (by simp), fun he => absurd he.1 h⟩

lemma readSeconds_ok_iff {field : String} : readSeconds field n = .ok m ↔ 0 < n ∧ m = n := by
  unfold readSeconds
  split
  · simp_all
  · have hn : 0 < n := by omega
    simp [hn, eq_comm]

end Settings
end Rendezvous
