import Mathlib.Data.List.Forall2
import Rendezvous.Json.Writer
import Rendezvous.Proofs.Json.Reading

/-! What is written is read back. Texts come back character for character, items in their order, and
members by ascending key. -/

namespace Rendezvous.Json

section Texts

variable {done cs rest : List Char} {c : Char}

lemma textBody_plain (hq : c ≠ '"') (hb : c ≠ '\\') (hc : ¬ c.toNat < 0x20) :
    textBody done (c :: cs) = textBody (c :: done) cs := by
  rw [textBody]
  · exact if_neg hc
  · exact hq
  · exact fun _ _ _ _ _ h => absurd h hb
  · exact fun _ _ h => absurd h hb

lemma hex4?_control : ∀ n, n < 0x20 →
    hex4? '0' '0' (hexChar (n / 16)) (hexChar (n % 16)) = some n := by
  decide

lemma textBody_control (hc : c.toNat < 0x20) :
    textBody done ('\\' :: 'u' :: '0' :: '0' :: hexChar (c.toNat / 16) ::
      hexChar (c.toNat % 16) :: cs) = textBody (c :: done) cs := by
  have hlow : isLowSurrogate c.toNat = false := by simp [isLowSurrogate]; omega
  have hhigh : isHighSurrogate c.toNat = false := by simp [isHighSurrogate]; omega
  rw [textBody, hex4?_control _ hc]
  simp [hlow, hhigh]

lemma textBody_escapeChar : textBody done (escapeChar c ++ cs) = textBody (c :: done) cs := by
  unfold escapeChar
  split
  iterate 7
    · simp [textBody, unescape?]
  · rename_i hq hb _ _ _ _ _
    split
    · rename_i hc
      exact textBody_control hc
    · rename_i hc
      exact textBody_plain hq hb hc

lemma textBody_flatMap (s : List Char) : textBody done (s.flatMap escapeChar ++ '"' :: rest) =
    some (String.ofList (done.reverse ++ s), rest) := by
  induction s generalizing done with
  | nil => simp [textBody]
  | cons c s ih =>
    rw [List.flatMap_cons, List.append_assoc, textBody_escapeChar, ih]
    simp

lemma textBody_quote (s : String) :
    textBody [] ((s.toList.flatMap escapeChar ++ ['"']) ++ rest) = some (s, rest) := by
  rw [List.append_assoc]
  exact (textBody_flatMap s.toList).trans (by simp)

end Texts

section Pieces

structure Reads {α : Type} (item : Reader α) (close : Char) (cs : List Char) (x : α) : Prop where
  start : ∃ c rest, cs = c :: rest ∧ isSpace c = false ∧ c ≠ close
  read : ∀ rest, Ends rest → item (cs ++ rest) = some (x, rest)

lemma ends_cons {c : Char} {rest : List Char} (h : Text.isDecimal c = false)
    (hc : c ≠ '.' ∧ c ≠ 'e' ∧ c ≠ 'E') : Ends (c :: rest) := by
  intro d hd
  obtain rfl := Option.some.inj hd
  exact ⟨h, hc⟩

lemma ends_nil : Ends [] := fun _ h => absurd h (by simp)

def further (close : Char) : List (List Char) → List Char
  | [] => [close]
  | cs :: pieces => ',' :: cs ++ further close pieces

def written (close : Char) : List (List Char) → List Char
  | [] => [close]
  | cs :: pieces => cs ++ further close pieces

lemma length_lt_further (close : Char) (pieces : List (List Char)) :
    pieces.length < (further close pieces).length := by
  induction pieces with
  | nil => exact Nat.zero_lt_one
  | cons cs pieces ih =>
    simp only [further, List.cons_append, List.length_cons, List.length_append]
    omega

variable {α : Type} {item : Reader α} {close : Char} {pieces : List (List Char)} {xs : List α}

structure Closes (close : Char) : Prop where
  not_space : isSpace close = false
  ne_comma : close ≠ ','
  ends : ∀ rest, Ends (close :: rest)

lemma itemsFrom_further (hclose : Closes close) (rest : List Char) {done : List α} {bound : Nat}
    {cs : List Char} {x : α} (hx : Reads item close cs x)
    (h : List.Forall₂ (Reads item close) pieces xs) (hb : pieces.length < bound) :
    itemsFrom item close done bound (cs ++ (further close pieces ++ rest)) =
      some (done.reverse ++ x :: xs, rest) := by
  induction h generalizing done cs x bound with
  | nil =>
    obtain ⟨bound, rfl⟩ := Nat.exists_eq_succ_of_ne_zero (Nat.ne_of_gt hb)
    have hread := hx.read (close :: rest) (hclose.ends rest)
    rw [further, List.singleton_append, itemsFrom_close hread hclose.not_space, List.reverse_cons]
  | @cons ds y pieces xs hy _ ih =>
    obtain ⟨bound, rfl⟩ := Nat.exists_eq_succ_of_ne_zero (Nat.ne_zero_of_lt hb)
    have hread := hx.read (',' :: (ds ++ (further close pieces ++ rest)))
      (ends_cons (by decide) (by decide))
    have hlist : further close (ds :: pieces) ++ rest = ',' :: (ds ++ (further close pieces ++ rest)) :=
      congrArg (',' :: ·) (List.append_assoc _ _ _)
    rw [hlist, itemsFrom_comma hread hclose.ne_comma, ih hy (Nat.lt_of_succ_lt_succ hb),
      List.reverse_cons, List.append_assoc, List.singleton_append]

lemma items_written (hclose : Closes close) (rest : List Char)
    (h : List.Forall₂ (Reads item close) pieces xs) :
    items item close (written close pieces ++ rest) = some (xs, rest) := by
  cases h with
  | nil =>
    have hspace : dropSpace (close :: rest) = close :: rest :=
      List.dropWhile_cons_of_neg (by simp [hclose.not_space])
    simp [written, items, hspace]
  | @cons cs x pieces xs hx hxs =>
    obtain ⟨c, ds, rfl, hs, hc⟩ := hx.start
    have hlength := length_lt_further close pieces
    have hbound : pieces.length < (ds ++ (further close pieces ++ rest)).length + 1 := by
      simp only [List.length_append]
      omega
    rw [written, List.append_assoc, List.cons_append, items_eq_itemsFrom hs hc]
    exact itemsFrom_further hclose rest hx hxs hbound

end Pieces

section Documents

variable {depth : Nat} {c : Char} {cs : List Char}

lemma dropSpace_cons (h : isSpace c = false) : dropSpace (c :: cs) = c :: cs :=
  List.dropWhile_cons_of_neg (by simp [h])

lemma document_scalar (hs : isSpace c = false) (ha : c ≠ '[') (ho : c ≠ '\x7b') :
    document depth (c :: cs) = scalar (c :: cs) := by
  cases depth with
  | zero => rw [document, dropSpace_cons hs]
  | succ depth =>
    rw [document, dropSpace_cons hs]
    split
    · rename_i he
      exact absurd (List.cons.inj he).1 ha
    · rename_i he
      exact absurd (List.cons.inj he).1 ho
    · rfl

lemma reads_null : Reads (document depth) ']' ['n', 'u', 'l', 'l'] .null where
  start := ⟨'n', _, rfl, by decide, by decide⟩
  read rest _ := document_scalar (by decide) (by decide) (by decide)

lemma reads_boolean (b : Bool) :
    Reads (document depth) ']' (Tree.boolean b : Value).write (.boolean b) := by
  cases b with
  | true => exact ⟨⟨'t', _, rfl, by decide, by decide⟩,
      fun rest _ => document_scalar (by decide) (by decide) (by decide)⟩
  | false => exact ⟨⟨'f', _, rfl, by decide, by decide⟩,
      fun rest _ => document_scalar (by decide) (by decide) (by decide)⟩

lemma reads_text (s : String) : Reads (document depth) ']' (quote s) (.text s) where
  start := ⟨'"', _, rfl, by decide, by decide⟩
  read rest _ := by
    have hscalar : scalar (quote s ++ rest) = some (.text s, rest) := by
      change (textBody [] ((s.toList.flatMap escapeChar ++ ['"']) ++ rest)).map _ = _
      rw [textBody_quote]
      rfl
    exact (document_scalar (by decide) (by decide) (by decide)).trans hscalar

lemma reads_integer (n : Int) :
    Reads (document depth) ']' (toString n).toList (.number (Numeral.ofInt n)) where
  start := by
    obtain ⟨c, cs, hn, hc⟩ := toString_head (z := n)
    have hne : ∀ k, Text.isDecimal k = false → k ≠ '-' → c ≠ k := by
      rintro k hk hk' rfl
      rcases hc with hc | hc
      · exact absurd (hk.symm.trans hc) (by decide)
      · exact hk' hc
    refine ⟨c, cs, hn, ?_, hne ']' (by decide) (by decide)⟩
    simp [isSpace, hne ' ' (by decide) (by decide), hne '\t' (by decide) (by decide),
      hne '\n' (by decide) (by decide), hne '\r' (by decide) (by decide)]
  read _ h := document_toString h

lemma reads_member {key : String} {d : Document} (h : Reads (document depth) ']' cs d) :
    Reads (member (document depth)) '\x7d' (quote key ++ ':' :: cs) (key, d) where
  start := ⟨'"', _, rfl, by decide, by decide⟩
  read rest hrest := by
    have hquote : quote key ++ ':' :: cs ++ rest =
        '"' :: ((key.toList.flatMap escapeChar ++ ['"']) ++ ':' :: (cs ++ rest)) := by
      simp [quote]
    have hcolon : dropSpace (':' :: (cs ++ rest)) = ':' :: (cs ++ rest) := dropSpace_cons (by decide)
    rw [hquote, member, dropSpace_cons (by decide)]
    simp only [textBody_quote, hcolon, h.read rest hrest, Option.map_some]

lemma closes_bracket : Closes ']' := ⟨by decide, by decide, fun _ => ends_cons (by decide) (by decide)⟩

lemma closes_brace : Closes '\x7d' := ⟨by decide, by decide, fun _ => ends_cons (by decide) (by decide)⟩

lemma reads_array {pieces : List (List Char)} {ds : List Document}
    (h : List.Forall₂ (Reads (document depth) ']') pieces ds) :
    Reads (document (depth + 1)) ']' ('[' :: written ']' pieces) (.array ds) where
  start := ⟨'[', _, rfl, by decide, by decide⟩
  read rest _ := by
    change (items (document depth) ']' (written ']' pieces ++ rest)).map _ = _
    rw [items_written closes_bracket rest h]
    rfl

lemma reads_object {pieces : List (List Char)} {ms : List (String × Document)}
    (h : List.Forall₂ (Reads (member (document depth)) '\x7d') pieces ms) :
    Reads (document (depth + 1)) ']' ('\x7b' :: written '\x7d' pieces) (.object ms) where
  start := ⟨'\x7b', _, rfl, by decide, by decide⟩
  read rest _ := by
    change (items (member (document depth)) '\x7d' (written '\x7d' pieces ++ rest)).map _ = _
    rw [items_written closes_brace rest h]
    rfl

end Documents

section Values

mutual

/-- No doubles, integers of 64 bits, and at most so many arrays and objects inside one another. -/
def Tree.Plain : Nat → Value → Prop
  | _, .null => True
  | _, .boolean _ => True
  | _, .number (.integer n) => leastInteger ≤ n ∧ n ≤ greatestWord
  | _, .number (.real _) => False
  | _, .text _ => True
  | 0, .array _ => False
  | 0, .object _ => False
  | depth + 1, .array items => Tree.PlainItems depth items
  | depth + 1, .object members => Tree.PlainMembers depth members

def Tree.PlainItems : Nat → List Value → Prop
  | _, [] => True
  | depth, v :: vs => Tree.Plain depth v ∧ Tree.PlainItems depth vs

def Tree.PlainMembers : Nat → List (String × Value) → Prop
  | _, [] => True
  | depth, (_, v) :: ms => Tree.Plain depth v ∧ Tree.PlainMembers depth ms

end

mutual

def Tree.sorted : Value → Value
  | .null => .null
  | .boolean b => .boolean b
  | .number n => .number n
  | .text s => .text s
  | .array items => .array (Tree.sortedItems items)
  | .object members =>
    .object ((Tree.sortedMembers members).foldl (fun acc m => putMember m.1 m.2 acc) [])

def Tree.sortedItems : List Value → List Value
  | [] => []
  | v :: vs => Tree.sorted v :: Tree.sortedItems vs

def Tree.sortedMembers : List (String × Value) → List (String × Value)
  | [] => []
  | (k, v) :: ms => (k, Tree.sorted v) :: Tree.sortedMembers ms

end

def memberPiece (m : String × Value) : List Char := quote m.1 ++ ':' :: m.2.write

lemma writeItems_eq (vs : List Value) : Tree.writeItems vs = written ']' (vs.map Tree.write) := by
  cases vs with
  | nil => rfl
  | cons v vs =>
    induction vs generalizing v with
    | nil => rfl
    | cons w vs ih => exact congrArg (v.write ++ ',' :: ·) (ih w)

lemma writeMembers_eq (ms : List (String × Value)) :
    Tree.writeMembers ms = written '\x7d' (ms.map memberPiece) := by
  cases ms with
  | nil => rfl
  | cons m ms =>
    induction ms generalizing m with
    | nil => rfl
    | cons n ms ih => exact congrArg (memberPiece m ++ ',' :: ·) (ih n)

mutual

lemma exists_document : ∀ {depth : Nat} (v : Value), v.Plain depth → ∃ d : Document,
    Document.value? d = some v.sorted ∧ Reads (document depth) ']' v.write d
  | _, .null, _ => ⟨.null, rfl, reads_null⟩
  | _, .boolean b, _ => ⟨.boolean b, rfl, reads_boolean b⟩
  | _, .text s, _ => ⟨.text s, rfl, reads_text s⟩
  | _, .number (.integer n), h => by
    refine ⟨.number (.ofInt n), ?_, reads_integer n⟩
    rw [Document.value?, number?_ofInt h.1 h.2]
    rfl
  | depth + 1, .array items, h => by
    obtain ⟨ds, hvalues, hds⟩ := exists_items items h
    refine ⟨.array ds, ?_, ?_⟩
    · rw [Document.value?, hvalues]
      rfl
    · rw [Tree.write, writeItems_eq]
      exact reads_array hds
  | depth + 1, .object members, h => by
    obtain ⟨ds, hvalues, hds⟩ := exists_members members h
    refine ⟨.object ds, ?_, ?_⟩
    · rw [Document.value?, hvalues]
      rfl
    · rw [Tree.write, writeMembers_eq]
      exact reads_object hds

lemma exists_items : ∀ {depth : Nat} (vs : List Value), Tree.PlainItems depth vs →
    ∃ ds : List Document, Document.values? ds = some (Tree.sortedItems vs) ∧
      List.Forall₂ (Reads (document depth) ']') (vs.map Tree.write) ds
  | _, [], _ => ⟨[], rfl, .nil⟩
  | _, v :: vs, h => by
    obtain ⟨d, hvalue, hd⟩ := exists_document v h.1
    obtain ⟨ds, hvalues, hds⟩ := exists_items vs h.2
    refine ⟨d :: ds, ?_, .cons hd hds⟩
    rw [Document.values?, hvalue, hvalues]
    rfl

lemma exists_members : ∀ {depth : Nat} (ms : List (String × Value)), Tree.PlainMembers depth ms →
    ∃ ds : List (String × Document), Document.members? ds = some (Tree.sortedMembers ms) ∧
      List.Forall₂ (Reads (member (document depth)) '\x7d') (ms.map memberPiece) ds
  | _, [], _ => ⟨[], rfl, .nil⟩
  | _, (k, v) :: ms, h => by
    obtain ⟨d, hvalue, hd⟩ := exists_document v h.1
    obtain ⟨ds, hvalues, hds⟩ := exists_members ms h.2
    refine ⟨(k, d) :: ds, ?_, .cons (reads_member hd) hds⟩
    rw [Document.members?, hvalue, hvalues]
    rfl

end

lemma parse?_render {v : Value} (h : v.Plain greatestDepth) : parse? (render v) = some v.sorted := by
  obtain ⟨d, hvalue, hd⟩ := exists_document v h
  have hread := hd.read [] ends_nil
  rw [List.append_nil] at hread
  have hdoc : read? (render v) = some d := by
    rw [read?, render, String.toList_ofList, hread]
    rfl
  rw [parse?, hdoc]
  exact hvalue

end Values

end Rendezvous.Json
