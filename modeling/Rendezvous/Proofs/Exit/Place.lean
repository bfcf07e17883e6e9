import Mathlib.Data.String.Basic
import Mathlib.Tactic.Lemma
import Rendezvous.Exit.Sockets
import Rendezvous.Proofs.Text.Split

namespace Rendezvous

namespace Exit

namespace Path

variable {kind? other? : Place → Option Kind} {here p : Place} {ps rest : List String}
  {path directory file part : String}

lemma utf8ByteSize_of_mem_parts (h : part ∈ parts path) : part.utf8ByteSize ≤ path.utf8ByteSize := by
  obtain ⟨cs, hcs, rfl⟩ := List.mem_map.mp h
  have hle := String.utf8Len_le_of_sublist (Text.sublist_of_mem_splitAll hcs)
  rwa [← String.utf8ByteSize_ofList, ← String.utf8ByteSize_ofList, String.ofList_toList] at hle

lemma parts_join (hfile : '/' ∉ file.toList) : ∃ ps, parts (join directory file) = ps ++ [file] ∧
    (parts directory = ps ∨ parts directory = ps ++ [""]) := by
  have hrelative : isAbsolute file = false := by
    refine beq_false_of_ne fun h => hfile ?_
    exact List.mem_of_mem_head? h
  have hparts : ∀ xs, (Text.splitAll '/' (xs ++ '/' :: file.toList)).map String.ofList =
      (Text.splitAll '/' xs).map String.ofList ++ [file] := by
    intro xs
    rw [Text.splitAll_append_cons, Text.splitAll_of_not_mem hfile, List.map_append, List.map_singleton,
      String.ofList_toList]
  rw [join, hrelative, if_neg (by simp)]
  split
  · rename_i hlast
    obtain ⟨xs, hxs⟩ := List.getLast?_eq_some_iff.mp (eq_of_beq hlast)
    refine ⟨(Text.splitAll '/' xs).map String.ofList, ?_, Or.inr ?_⟩
    · rw [parts, String.toList_append, hxs, List.append_assoc]
      exact hparts xs
    · rw [parts, hxs, Text.splitAll_append_cons, List.map_append]
      rfl
  · refine ⟨parts directory, ?_, Or.inl rfl⟩
    rw [parts, String.toList_append, String.toList_append, List.append_assoc]
    exact hparts directory.toList

lemma walk_append (hdirectory : ∀ q ∈ ps.scanl step here, kind? q = some .directory)
    (hsize : ∀ part ∈ ps, part.utf8ByteSize ≤ greatestName) (hrest : rest ≠ []) :
    walk kind? here (ps ++ rest) = walk kind? (ps.foldl step here) rest := by
  induction ps generalizing here with
  | nil => rfl
  | cons part ps ih =>
    rw [List.scanl_cons, List.forall_mem_cons] at hdirectory
    rw [List.forall_mem_cons] at hsize
    have hnext := ih hdirectory.2 hsize.2
    have hmore : (ps ++ rest).isEmpty = false := by simp [hrest]
    rw [List.cons_append, walk, List.foldl_cons, ← hnext, step]
    split
    · rfl
    · split
      · rfl
      · rename_i hnamed hback
        have hstep : step here part = here ++ [part] := by rw [step, if_neg hnamed, if_neg hback]
        have hkind : kind? (here ++ [part]) = some .directory := by
          rw [← hstep]
          refine hdirectory.2 _ ?_
          cases ps <;> simp [List.scanl]
        rw [if_neg (by omega), hmore, if_neg (by simp), hkind]

lemma walk_eq_foldl (h : walk kind? here ps = .ok p) : p = ps.foldl step here := by
  induction ps generalizing here with
  | nil => exact (Except.ok.inj h).symm
  | cons part ps ih =>
    rw [walk] at h
    rw [List.foldl_cons, step]
    by_cases hnamed : isNameless part
    · rw [if_pos hnamed] at h ⊢
      exact ih h
    rw [if_neg hnamed] at h ⊢
    by_cases hback : part = ".."
    · rw [if_pos hback] at h ⊢
      exact ih h
    rw [if_neg hback] at h ⊢
    split at h
    · cases h
    split at h
    · rename_i hlast
      rw [List.isEmpty_iff.mp hlast]
      exact (Except.ok.inj h).symm
    · split at h
      · cases h
      · cases h
      · exact ih h

lemma walk_congr (hkind : ∀ q, kind? q = some .directory → other? q = some .directory)
    (h : walk kind? here ps = .ok p) : walk other? here ps = .ok p := by
  induction ps generalizing here with
  | nil => exact h
  | cons part ps ih =>
    rw [walk] at h ⊢
    by_cases hnamed : isNameless part
    · rw [if_pos hnamed] at h ⊢
      exact ih h
    rw [if_neg hnamed] at h ⊢
    by_cases hback : part = ".."
    · rw [if_pos hback] at h ⊢
      exact ih h
    rw [if_neg hback] at h ⊢
    by_cases hlong : greatestName < part.utf8ByteSize
    · rw [if_pos hlong] at h
      exact absurd h (by simp)
    rw [if_neg hlong] at h ⊢
    by_cases hlast : ps.isEmpty
    · rw [if_pos hlast] at h ⊢
      exact h
    rw [if_neg hlast] at h ⊢
    split at h
    · exact absurd h (by simp)
    · exact absurd h (by simp)
    · rename_i hq
      rw [hkind _ hq]
      exact ih h

end Path

namespace Sockets

variable {s t : Sockets} {name other path : String} {p : Place}

def seat (s : Sockets) (name : String) : Place :=
  (Path.parts s.directory).foldl Path.step [] ++ [name ++ ".sock"]

structure Usable (s : Sockets) (name : String) : Prop where
  separator : '/' ∉ name.toList
  fits : Path.fitsSocket (s.path name) = true

lemma isDirectory_congr (h : t.directory = s.directory) : t.isDirectory p = s.isDirectory p := by
  rw [isDirectory, h, isDirectory]

lemma path_congr (h : t.directory = s.directory) : t.path name = s.path name := by
  rw [path, h, path]

lemma seat_congr (h : t.directory = s.directory) : t.seat name = s.seat name := by
  rw [seat, h, seat]

lemma Usable.congr (hu : s.Usable name) (h : t.directory = s.directory) : t.Usable name where
  separator := hu.separator
  fits := path_congr h ▸ hu.fits

lemma seat_injective (h : s.seat name = s.seat other) : name = other := by
  have hlast := List.append_cancel_left h
  rw [List.cons.injEq] at hlast
  exact (String.append_left_inj _).mp hlast.1

lemma kind?_eq_directory {q : Place} : s.kind? q = some .directory ↔ s.isDirectory q = true := by
  unfold kind?
  split
  · simp_all
  · cases s.file? q <;> simp_all

lemma locate_congr (h : t.directory = s.directory) (hl : s.locate path = .ok p) :
    t.locate path = .ok p := by
  rw [locate, Path.locate] at hl ⊢
  by_cases hnul : Path.hasNul path
  · rw [if_pos hnul] at hl
    exact absurd hl (by simp)
  rw [if_neg hnul] at hl ⊢
  by_cases hlong : Path.greatestSize < path.utf8ByteSize
  · rw [if_pos hlong] at hl
    exact absurd hl (by simp)
  rw [if_neg hlong] at hl ⊢
  refine Path.walk_congr (fun q hq => ?_) hl
  rw [kind?_eq_directory] at hq ⊢
  rw [isDirectory_congr h, hq]

lemma separator_file (h : '/' ∉ name.toList) : '/' ∉ (name ++ ".sock").toList := by
  rw [String.toList_append, List.mem_append, not_or]
  exact ⟨h, by decide⟩

lemma length_file : 5 ≤ (name ++ ".sock").toList.length := by
  rw [String.toList_append, List.length_append]
  exact Nat.le_add_left 5 _

lemma isNamed_file : ¬ Path.isNameless (name ++ ".sock") ∧ name ++ ".sock" ≠ ".." := by
  have hne : ∀ short : String, short.toList.length < 5 → name ++ ".sock" ≠ short := by
    rintro short hs rfl
    exact absurd length_file (Nat.not_le.mpr hs)
  exact ⟨by simp [Path.isNameless, hne "" (by decide), hne "." (by decide)], hne ".." (by decide)⟩

lemma walk_file {here : Place} (hsize : (name ++ ".sock").utf8ByteSize ≤ Path.greatestName) :
    Path.walk s.kind? here [name ++ ".sock"] = .ok (here ++ [name ++ ".sock"]) := by
  rw [Path.walk, if_neg isNamed_file.1, if_neg isNamed_file.2, if_neg (Nat.not_lt.mpr hsize)]
  rfl

lemma step_file {here : Place} : Path.step here (name ++ ".sock") = here ++ [name ++ ".sock"] := by
  rw [Path.step, if_neg isNamed_file.1, if_neg isNamed_file.2]

lemma parts_path (h : '/' ∉ name.toList) : ∃ ps, Path.parts (s.path name) = ps ++ [name ++ ".sock"] ∧
    s.seat name = ps.foldl Path.step [] ++ [name ++ ".sock"] ∧
    (Path.parts s.directory = ps ∨ Path.parts s.directory = ps ++ [""]) := by
  obtain ⟨ps, hpath, hdirectory⟩ : ∃ ps, Path.parts (s.path name) = ps ++ [name ++ ".sock"] ∧
      (Path.parts s.directory = ps ∨ Path.parts s.directory = ps ++ [""]) :=
    Path.parts_join (separator_file h)
  refine ⟨ps, hpath, ?_, hdirectory⟩
  rcases hdirectory with h | h
  · rw [seat, h]
  · rw [seat, h, List.foldl_concat]
    rfl

lemma seat_of_locate (hname : '/' ∉ name.toList) (h : s.locate (s.path name) = .ok p) :
    p = s.seat name := by
  obtain ⟨ps, hpath, hseat, -⟩ := parts_path hname
  rw [Sockets.locate, Path.locate] at h
  split at h
  · cases h
  · split at h
    · cases h
    · rw [Path.walk_eq_foldl h, hpath, List.foldl_concat, step_file, hseat]

lemma Usable.locate (hu : s.Usable name) : s.locate (s.path name) = .ok (s.seat name) := by
  obtain ⟨hnul, hsize⟩ := Bool.and_eq_true_iff.mp hu.fits
  rw [Bool.not_eq_true'] at hnul
  rw [decide_eq_true_eq, Path.greatestSocketSize] at hsize
  obtain ⟨ps, hpath, hseat, hdirectory⟩ := parts_path hu.separator
  have hparts : ∀ part ∈ ps ++ [name ++ ".sock"], part.utf8ByteSize ≤ Path.greatestName := by
    intro part hpart
    have hle := Path.utf8ByteSize_of_mem_parts (hpath ▸ hpart)
    exact hle.trans (hsize.trans (by decide))
  have hway : ∀ q ∈ ps.scanl Path.step [], s.kind? q = some .directory := by
    intro q hq
    rw [kind?_eq_directory, isDirectory, Path.way, List.contains_iff_mem]
    rcases hdirectory with h | h
    · rwa [h]
    · rw [h, List.scanl_append]
      exact List.mem_append_left _ hq
  rw [Sockets.locate, Path.locate, hnul, if_neg (by simp), if_neg (by rw [Path.greatestSize]; omega),
    hpath, Path.walk_append hway (fun part hpart => hparts part (List.mem_append_left _ hpart)) (by simp),
    walk_file (hparts _ (by simp)), hseat]

lemma Usable.path_injective (hn : s.Usable name) (ho : s.Usable other)
    (h : s.path name = s.path other) : name = other := by
  have hsame : s.locate (s.path other) = .ok (s.seat name) := h ▸ hn.locate
  rw [ho.locate] at hsame
  exact seat_injective (Except.ok.inj hsame).symm

end Sockets

end Exit
end Rendezvous
