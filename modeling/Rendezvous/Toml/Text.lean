import Rendezvous.Text.Digit

namespace Rendezvous.Toml

abbrev Reader (α : Type) := List Char → Option (α × List Char)

def isSpace (c : Char) : Bool := c == ' ' || c == '\t'

def dropSpace (cs : List Char) : List Char := cs.dropWhile isSpace

def isPlain (c : Char) : Bool := c == '\t' || (0x20 ≤ c.toNat && c.toNat ≠ 0x7F)

def unescape? : Char → Option Char
  | 'b' => some '\x08'
  | 't' => some '\t'
  | 'n' => some '\n'
  | 'f' => some '\x0c'
  | 'r' => some '\r'
  | '"' => some '"'
  | '\\' => some '\\'
  | _ => none

def scalar? (n : Nat) : Option Char :=
  if n < 0xD800 ∨ (0xDFFF < n ∧ n ≤ 0x10FFFF) then some (Char.ofNat n) else none

def text (done : List Char) : String := String.ofList done.reverse

inductive Mode where
  | plain
  | slash
  | hex (left value : Nat)
  | beforeBreak
  | afterBreak
deriving DecidableEq, Repr

def Mode.next? (m : Mode) (c : Char) : Option (Mode × List Char) :=
  match m with
  | .slash =>
    if c == 'u' then some (.hex 4 0, [])
    else if c == 'U' then some (.hex 8 0, [])
    else (unescape? c).map fun x => (.plain, [x])
  | .hex left value =>
    match Text.hexDigit? c with
    | none => none
    | some d =>
      if left ≤ 1 then (scalar? (value * 16 + d)).map fun x => (.plain, [x])
      else some (.hex (left - 1) (value * 16 + d), [])
  | _ => none

def quoted (m : Mode) (done : List Char) : Reader String
  | [] => none
  | c :: cs =>
    if m = .plain then
      if c == '"' then some (text done, cs)
      else if c == '\\' then quoted .slash done cs
      else if isPlain c then quoted .plain (c :: done) cs
      else none
    else
      match m.next? c with
      | some (m, x) => quoted m (x ++ done) cs
      | none => none

def literal (done : List Char) : Reader String
  | [] => none
  | c :: cs =>
    if c == '\'' then some (text done, cs)
    else if isPlain c then literal (c :: done) cs
    else none

def closing (q : Char) (done : List Char) : Reader String
  | a :: b :: c :: d :: cs =>
    if a == q && b == q then
      if c == q && d == q then some (text (q :: q :: done), cs)
      else if c == q then some (text (q :: done), d :: cs)
      else some (text done, c :: d :: cs)
    else none
  | [a, b, c] =>
    if a == q && b == q then
      if c == q then some (text (q :: done), []) else some (text done, [c])
    else none
  | [a, b] => if a == q && b == q then some (text done, []) else none
  | _ => none

def quotedLines (m : Mode) (done : List Char) : Reader String
  | [] => none
  | c :: cs =>
    match m with
    | .beforeBreak =>
      if c == '\n' then quotedLines .afterBreak done cs
      else if isSpace c then quotedLines .beforeBreak done cs
      else none
    | .slash | .hex .. =>
      match m.next? c with
      | some (m, x) => quotedLines m (x ++ done) cs
      | none =>
        if m = .slash && c == '\n' then quotedLines .afterBreak done cs
        else if m = .slash && isSpace c then quotedLines .beforeBreak done cs
        else none
    | .plain | .afterBreak =>
      if m = .afterBreak && (c == '\n' || isSpace c) then quotedLines m done cs
      else if c == '\\' then quotedLines .slash done cs
      else if c == '"' then (closing c done cs).or (quotedLines .plain (c :: done) cs)
      else if isPlain c || c == '\n' then quotedLines .plain (c :: done) cs
      else none

def literalLines (done : List Char) : Reader String
  | [] => none
  | c :: cs =>
    if c == '\'' then (closing c done cs).or (literalLines (c :: done) cs)
    else if isPlain c || c == '\n' then literalLines (c :: done) cs
    else none

def dropBreak : List Char → List Char
  | '\n' :: cs => cs
  | cs => cs

def anyText : Reader String
  | '"' :: '"' :: '"' :: cs => quotedLines .plain [] (dropBreak cs)
  | '\'' :: '\'' :: '\'' :: cs => literalLines [] (dropBreak cs)
  | '"' :: cs => quoted .plain [] cs
  | '\'' :: cs => literal [] cs
  | _ => none

def isBare (c : Char) : Bool := c.isAlphanum || c == '_' || c == '-'

def key : Reader String
  | '"' :: cs => quoted .plain [] cs
  | '\'' :: cs => literal [] cs
  | cs =>
    let bare := cs.takeWhile isBare
    if bare.isEmpty then none else some (String.ofList bare, cs.dropWhile isBare)

def pathFrom : Nat → Reader (List String)
  | 0, _ => none
  | bound + 1, cs =>
    match key cs with
    | none => none
    | some (k, cs) =>
      match dropSpace cs with
      | '.' :: rest => (pathFrom bound (dropSpace rest)).map fun (ks, cs) => (k :: ks, cs)
      | rest => some ([k], rest)

def path (cs : List Char) : Option (List String × List Char) := pathFrom (cs.length + 1) cs

end Rendezvous.Toml
