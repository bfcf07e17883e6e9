import Rendezvous.Text.Alphanumeric
import Rendezvous.Text.Digit
import Rendezvous.Text.Split

/-!
Patterns for the values of fields. Only spans have fields with values, so all that matters here is
whether a pattern is well formed.
-/

namespace Rendezvous.Log.Pattern

structure Flags where
  ignoreCase : Bool := false
  unicode : Bool := true
deriving DecidableEq, Repr

namespace Flags

def comparesLetters (f : Flags) : Bool := !(f.ignoreCase && f.unicode)

def letters : List Char := ['i', 'm', 's', 'U', 'u', 'R', 'x']

def set (f : Flags) (on : Bool) (c : Char) : Flags :=
  if c == 'i' then { f with ignoreCase := on }
  else if c == 'u' then { f with unicode := on }
  else f

def read? (f : Flags) (seen : List Char) : List Char → Option Flags
  | [] => if seen.head? == some '-' then none else some f
  | c :: cs =>
    if seen.contains c then none
    else if c == '-' || letters.contains c then
      read? (if c == '-' then f else f.set (!seen.contains '-') c) (c :: seen) cs
    else none

end Flags

inductive Atom where
  | single (c : Char)
  | set
  | edge
deriving DecidableEq, Repr

def coded? (size : Nat) (cs : List Char) : Option (Atom × List Char) :=
  if cs.length < size then none
  else
    ((Text.number? 16 (cs.take size)).filter Nat.isValidChar).map fun n =>
      (.single (Char.ofNat n), cs.drop size)

def edges : List Char := ['b', 'B', '<', '>']

def escaped? (f : Flags) : List Char → Option (Atom × List Char)
  | [] => none
  | c :: cs =>
    if c == 'x' then coded? 2 cs
    else if c == 'u' then coded? 4 cs
    else if c == 'U' then coded? 8 cs
    else if ['d', 's', 'w'].contains c then if f.unicode then none else some (.set, cs)
    else if edges.contains c then if f.unicode then none else some (.edge, cs)
    else if c == 'A' || c == 'z' then some (.edge, cs)
    else if ['a', 'f', 't', 'n', 'r', 'v'].contains c then some (.single c, cs)
    else if c.toNat < 128 && !c.isAlphanum then some (.single c, cs)
    else none

def setNames : List String :=
  ["alnum", "alpha", "ascii", "blank", "cntrl", "digit", "graph", "lower", "print", "punct",
    "space", "upper", "word", "xdigit"]

def afterNamedSet? : List Char → Option (List Char)
  | ':' :: cs =>
    match Text.splitFirst? ':' (if cs.head? == some '^' then cs.drop 1 else cs) with
    | some (name, ']' :: rest) => if setNames.contains (String.ofList name) then some rest else none
    | _ => none
  | _ => none

def opened (cs : List Char) : List Char :=
  let cs := if cs.head? == some '^' then cs.drop 1 else cs
  let rest := cs.dropWhile (· == '-')
  if rest.length = cs.length ∧ cs.head? = some ']' then cs.drop 1 else rest

def setItem? (f : Flags) : List Char → Option (Atom × List Char)
  | [] => none
  | '\\' :: cs => escaped? f cs
  | c :: cs => some (.single c, cs)

def setRange? (f : Flags) (cs : List Char) : Option (List Char) :=
  match setItem? f cs with
  | none => none
  | some (first, rest) =>
    match rest with
    | '-' :: next :: more =>
      if next == ']' || next == '-' then if first = .edge then none else some rest
      else
        match first, setItem? f (next :: more) with
        | .single a, some (.single b, cs) => if a ≤ b then some cs else none
        | _, _ => none
    | _ => if first = .edge then none else some rest

def afterSet? (f : Flags) : Nat → Nat → List Char → Option (List Char)
  | 0, _, _ => none
  | bound + 1, depth, cs =>
    match cs with
    | [] => none
    | '[' :: rest =>
      match afterNamedSet? rest with
      | some rest => afterSet? f bound depth rest
      | none => afterSet? f bound (depth + 1) (opened rest)
    | ']' :: rest => if depth ≤ 1 then some rest else afterSet? f bound (depth - 1) rest
    | '&' :: '&' :: rest => afterSet? f bound depth rest
    | '-' :: '-' :: rest => afterSet? f bound depth rest
    | '~' :: '~' :: rest => afterSet? f bound depth rest
    | cs => (setRange? f cs).bind (afterSet? f bound depth)

structure State where
  flags : Flags := {}
  outer : List Flags := []
  names : List (List Char) := []
  repeatable : Bool := false
deriving DecidableEq, Repr

namespace State

def start : State := {}

def enter (s : State) (f : Flags) : State :=
  { s with flags := f, outer := s.flags :: s.outer, repeatable := false }

def leave? (s : State) : Option State :=
  match s.outer with
  | [] => none
  | f :: outer => some { s with flags := f, outer := outer, repeatable := true }

def isNameChar (c : Char) : Bool :=
  c == '_' || c == '.' || c == '[' || c == ']' || Text.isAlphanumeric c

def isName (name : List Char) : Bool :=
  match name with
  | [] => false
  | c :: cs => (c == '_' || (Text.isAlphanumeric c && !c.isDigit)) && cs.all isNameChar

def enterNamed? (s : State) (cs : List Char) : Option (State × List Char) :=
  match Text.splitFirst? '>' cs with
  | none => none
  | some (name, rest) =>
    if isName name && !s.names.contains name then
      some ({ s.enter s.flags with names := name :: s.names }, rest)
    else none

def setFlags? (s : State) (cs : List Char) : Option (State × List Char) :=
  let given := cs.takeWhile fun c => c != ':' && c != ')'
  match s.flags.read? [] given, cs.drop given.length with
  | some f, ':' :: rest => some (s.enter f, rest)
  | some f, ')' :: rest =>
    if given.isEmpty then none else some ({ s with flags := f, repeatable := false }, rest)
  | _, _ => none

def group? (s : State) : List Char → Option (State × List Char)
  | '?' :: 'P' :: '<' :: cs => s.enterNamed? cs
  | '?' :: '<' :: cs => s.enterNamed? cs
  | '?' :: cs => s.setFlags? cs
  | cs => some (s.enter s.flags, cs)

def add? (s : State) (a : Atom) : Option State :=
  match a with
  | .single _ => if s.flags.comparesLetters then some { s with repeatable := true } else none
  | _ => some { s with repeatable := true }

end State

def isSound : Nat → State → List Char → Bool
  | 0, _, _ => false
  | _, s, [] => s.outer.isEmpty
  | bound + 1, s, c :: cs =>
    let goOn (next : Option (State × List Char)) : Bool :=
      match next with
      | none => false
      | some (s, cs) => isSound bound s cs
    if c == '(' then goOn (s.group? cs)
    else if c == ')' then goOn (s.leave?.map fun s => (s, cs))
    else if c == '|' then goOn (some ({ s with repeatable := false }, cs))
    else if c == '*' || c == '+' || c == '?' then
      goOn (if s.repeatable then some (s, if cs.head? == some '?' then cs.drop 1 else cs) else none)
    else if c == '\x7b' then false
    else if c == '[' then
      if s.flags.comparesLetters then
        goOn ((afterSet? s.flags (cs.length + 1) 1 (opened cs)).map fun cs =>
          ({ s with repeatable := true }, cs))
      else false
    else if c == '\\' then
      goOn ((escaped? s.flags cs).bind fun (a, cs) => (s.add? a).map fun s => (s, cs))
    else if c == '.' then s.flags.unicode && goOn (some ({ s with repeatable := true }, cs))
    else if c == '^' || c == '$' then goOn (some ({ s with repeatable := true }, cs))
    else goOn ((s.add? (.single c)).map fun s => (s, cs))

def isWellFormed (cs : List Char) : Bool := isSound (cs.length + 1) .start cs

def isNumber (cs : List Char) : Bool :=
  let whole := cs.takeWhile (·.isDigit)
  let rest := cs.drop whole.length
  let part := if rest.head? == some '.' then (rest.drop 1).takeWhile (·.isDigit) else []
  let rest := if rest.head? == some '.' then rest.drop (1 + part.length) else rest
  ["inf", "infinity", "nan"].contains (String.ofList (cs.map Char.toLower)) ||
    !(whole.isEmpty && part.isEmpty) &&
      match rest with
      | [] => true
      | c :: ds =>
        let ds := if ds.head? == some '+' || ds.head? == some '-' then ds.drop 1 else ds
        (c == 'e' || c == 'E') && !ds.isEmpty && ds.all (·.isDigit)

def isValue : List Char → Bool
  | '+' :: cs => isNumber cs
  | cs => isWellFormed cs

end Rendezvous.Log.Pattern
