import Rendezvous.Binary64
import Rendezvous.Text.Split
import Rendezvous.Toml.Moment
import Rendezvous.Toml.Text

namespace Rendezvous.Toml

inductive Value where
  | text (s : String)
  | integer (n : Int)
  | other
  | array (items : List Value)
  | table (dotted : Bool) (entries : List (String × Value))
deriving Repr

abbrev Entries := List (String × Value)

def removeUnderscores? (cs : List Char) : Option (List Char) :=
  let parts := Text.splitAll '_' cs
  if parts.any List.isEmpty then none else some parts.flatten

def natural? (base : Nat) (cs : List Char) : Option Nat :=
  (removeUnderscores? cs).bind (Text.number? base)

def decimal? : List Char → Option Nat
  | ['0'] => some 0
  | '0' :: _ => none
  | cs => natural? 10 cs

def anyInteger? : List Char → Option Int
  | '0' :: 'x' :: cs => (natural? 16 cs).map fun n => (n : Int)
  | '0' :: 'o' :: cs => (natural? 8 cs).map fun n => (n : Int)
  | '0' :: 'b' :: cs => (natural? 2 cs).map fun n => (n : Int)
  | '+' :: cs => (decimal? cs).map fun n => (n : Int)
  | '-' :: cs => (decimal? cs).map fun n => -(n : Int)
  | cs => (decimal? cs).map fun n => (n : Int)

def integer? (cs : List Char) : Option Int :=
  (anyInteger? cs).filter fun n => -0x8000000000000000 ≤ n && n ≤ 0x7FFFFFFFFFFFFFFF

def isNumeral (c : Char) : Bool := c.isDigit || c == '_'

def exponent? : List Char → Option Int
  | '+' :: cs => (natural? 10 cs).map fun n => (n : Int)
  | '-' :: cs => (natural? 10 cs).map fun n => -(n : Int)
  | cs => (natural? 10 cs).map fun n => (n : Int)

def isInRange (digits : List Char) (e : Int) : Bool :=
  let m := (Text.number? 10 digits).getD 0
  if m = 0 then true
  else if e < 0 then
    digits.length < e.natAbs || (Binary64.ofNat? (m / Nat.pow 10 e.natAbs)).isSome
  else e ≤ 400 && (Binary64.ofNat? (m * Nat.pow 10 e.natAbs)).isSome

def real? (cs : List Char) : Option Bool :=
  let whole := cs.takeWhile isNumeral
  if (decimal? whole).isNone then none
  else
    let digits := whole.filter (·.isDigit)
    match cs.drop whole.length with
    | '.' :: rest =>
      let part := rest.takeWhile isNumeral
      let fraction := part.filter (·.isDigit)
      if (natural? 10 part).isNone then none
      else
        match rest.drop part.length with
        | [] => some (isInRange (digits ++ fraction) (-fraction.length))
        | c :: rest =>
          if c == 'e' || c == 'E' then
            (exponent? rest).map fun e => isInRange (digits ++ fraction) (e - fraction.length)
          else none
    | c :: rest =>
      if c == 'e' || c == 'E' then (exponent? rest).map (isInRange digits) else none
    | [] => none

def isSpecial (cs : List Char) : Bool := cs == "inf".toList || cs == "nan".toList

def isReal : List Char → Bool
  | '+' :: cs => isSpecial cs || real? cs == some true
  | '-' :: cs => isSpecial cs || (real? cs).isSome
  | cs => isSpecial cs || real? cs == some true

def isTruth (cs : List Char) : Bool := cs == "true".toList || cs == "false".toList

def isWordChar (c : Char) : Bool :=
  c.isAlphanum || c == '_' || c == '+' || c == '-' || c == '.' || c == ':'

def ofWord? (word : List Char) : Option Value :=
  match integer? word with
  | some n => some (.integer n)
  | none => if isTruth word || isReal word || isMoment word then some .other else none

def word : Reader Value := fun cs =>
  let first := cs.takeWhile isWordChar
  let rest := cs.dropWhile isWordChar
  let second := (rest.drop 1).takeWhile isWordChar
  if isDate first && rest.head? == some ' ' && isZonedTime second then
    some (.other, (rest.drop 1).dropWhile isWordChar)
  else (ofWord? first).map fun v => (v, rest)

def assignment : Reader (List String) := fun cs =>
  match path cs with
  | none => none
  | some (p, cs) =>
    match dropSpace cs with
    | '=' :: cs => some (p, dropSpace cs)
    | _ => none

/-- Sets a value under a path of keys. A key may be set once, and only a table that comes from keys
with dots may be added to. -/
def insert? (es : Entries) : List String → Value → Option Entries
  | [], _ => none
  | [k], v => if es.any (·.1 == k) then none else some (es ++ [(k, v)])
  | k :: ks, v =>
    match es.lookup k with
    | none => (insert? [] ks v).map fun inner => es ++ [(k, .table true inner)]
    | some (.table true inner) =>
      (insert? inner ks v).map fun inner =>
        es.map fun e => if e.1 == k then (k, .table true inner) else e
    | some _ => none

def skip (comment : Bool) : List Char → List Char
  | [] => []
  | c :: cs =>
    if c == '\n' then skip false cs
    else if comment then if isPlain c then skip true cs else c :: cs
    else if isSpace c then skip false cs
    else if c == '#' then skip true cs
    else c :: cs

def items (item : Reader Value) (done : List Value) : Nat → Reader (List Value)
  | 0, _ => none
  | bound + 1, cs =>
    match skip false cs with
    | ']' :: cs => some (done.reverse, cs)
    | cs =>
      match item cs with
      | none => none
      | some (v, cs) =>
        match skip false cs with
        | ',' :: cs => items item (v :: done) bound cs
        | ']' :: cs => some ((v :: done).reverse, cs)
        | _ => none

def inlineEntries (item : Reader Value) (done : Entries) : Nat → Reader Entries
  | 0, _ => none
  | bound + 1, cs =>
    match assignment (dropSpace cs) with
    | none => none
    | some (p, cs) =>
      match item cs with
      | none => none
      | some (v, cs) =>
        match insert? done p v, dropSpace cs with
        | some es, '\x7d' :: cs => some (es, cs)
        | some es, ',' :: cs => inlineEntries item es bound cs
        | _, _ => none

def valueWithin : Nat → Reader Value
  | _, '"' :: cs => (anyText ('"' :: cs)).map fun (s, cs) => (.text s, cs)
  | _, '\'' :: cs => (anyText ('\'' :: cs)).map fun (s, cs) => (.text s, cs)
  | depth + 1, '[' :: cs =>
    (items (valueWithin depth) [] (cs.length + 1) cs).map fun (vs, cs) => (.array vs, cs)
  | depth + 1, '\x7b' :: cs =>
    match dropSpace cs with
    | '\x7d' :: cs => some (.table false [], cs)
    | cs =>
      (inlineEntries (valueWithin depth) [] (cs.length + 1) cs).map fun (es, cs) =>
        (.table false es, cs)
  | _, cs => word cs

def greatestDepth : Nat := 79

def value : Reader Value := valueWithin greatestDepth

end Rendezvous.Toml
