import Rendezvous.Json.Number
import Rendezvous.Text.Digit

namespace Rendezvous.Json

def isSpace (c : Char) : Bool := c == ' ' || c == '\t' || c == '\n' || c == '\r'

def dropSpace (cs : List Char) : List Char := cs.dropWhile isSpace

abbrev Reader (α : Type) := List Char → Option (α × List Char)

def hex4? (a b c d : Char) : Option Nat := do
  let a ← Text.hexDigit? a
  let b ← Text.hexDigit? b
  let c ← Text.hexDigit? c
  let d ← Text.hexDigit? d
  return ((a * 16 + b) * 16 + c) * 16 + d

def isHighSurrogate (n : Nat) : Bool := 0xD800 ≤ n && n ≤ 0xDBFF
def isLowSurrogate (n : Nat) : Bool := 0xDC00 ≤ n && n ≤ 0xDFFF

def joinSurrogates (high low : Nat) : Char :=
  Char.ofNat (0x10000 + (high - 0xD800) * 0x400 + (low - 0xDC00))

def unescape? : Char → Option Char
  | '"' => some '"'
  | '\\' => some '\\'
  | '/' => some '/'
  | 'b' => some '\x08'
  | 'f' => some '\x0c'
  | 'n' => some '\n'
  | 'r' => some '\r'
  | 't' => some '\t'
  | _ => none

def textBody (done : List Char) : Reader String
  | [] => none
  | '"' :: cs => some (String.ofList done.reverse, cs)
  | '\\' :: 'u' :: a :: b :: c :: d :: cs =>
    match hex4? a b c d with
    | none => none
    | some n =>
      if isLowSurrogate n then none
      else if isHighSurrogate n then
        match cs with
        | '\\' :: 'u' :: a :: b :: c :: d :: cs =>
          match hex4? a b c d with
          | none => none
          | some m => if isLowSurrogate m then textBody (joinSurrogates n m :: done) cs else none
        | _ => none
      else textBody (Char.ofNat n :: done) cs
  | '\\' :: e :: cs =>
    match unescape? e with
    | none => none
    | some c => textBody (c :: done) cs
  | c :: cs => if c.toNat < 0x20 then none else textBody (c :: done) cs

def digits (cs : List Char) : List Nat × List Char :=
  ((cs.takeWhile Text.isDecimal).map (fun c => c.toNat - '0'.toNat), cs.dropWhile Text.isDecimal)

def someDigits : Reader (List Nat) := fun cs =>
  let (ds, cs) := digits cs
  if ds.isEmpty then none else some (ds, cs)

def whole : Reader (List Nat)
  | '0' :: cs => some ([0], cs)
  | cs => someDigits cs

def fraction : Reader (List Nat)
  | '.' :: cs => someDigits cs
  | cs => some ([], cs)

def signedDigits : Reader (Bool × List Nat)
  | '+' :: cs => (someDigits cs).map fun (ds, cs) => ((false, ds), cs)
  | '-' :: cs => (someDigits cs).map fun (ds, cs) => ((true, ds), cs)
  | cs => (someDigits cs).map fun (ds, cs) => ((false, ds), cs)

def exponent : Reader (Option (Bool × List Nat))
  | 'e' :: cs => (signedDigits cs).map fun (x, cs) => (some x, cs)
  | 'E' :: cs => (signedDigits cs).map fun (x, cs) => (some x, cs)
  | cs => some (none, cs)

def unsigned (negative : Bool) : Reader Numeral := fun cs => do
  let (w, cs) ← whole cs
  let (f, cs) ← fraction cs
  let (e, cs) ← exponent cs
  return (⟨negative, w, f, e⟩, cs)

def numeral : Reader Numeral
  | '-' :: cs => unsigned true cs
  | cs => unsigned false cs

def scalar : Reader Document
  | 'n' :: 'u' :: 'l' :: 'l' :: cs => some (.null, cs)
  | 't' :: 'r' :: 'u' :: 'e' :: cs => some (.boolean true, cs)
  | 'f' :: 'a' :: 'l' :: 's' :: 'e' :: cs => some (.boolean false, cs)
  | '"' :: cs => (textBody [] cs).map fun (s, cs) => (.text s, cs)
  | cs => (numeral cs).map fun (n, cs) => (.number n, cs)

def itemsFrom {α : Type} (item : Reader α) (close : Char) (done : List α) : Nat → Reader (List α)
  | 0, _ => none
  | bound + 1, cs =>
    match item cs with
    | none => none
    | some (x, cs) =>
      match dropSpace cs with
      | [] => none
      | c :: cs =>
        if c == close then some ((x :: done).reverse, cs)
        else if c == ',' then itemsFrom item close (x :: done) bound cs
        else none

def items {α : Type} (item : Reader α) (close : Char) : Reader (List α) := fun cs =>
  match dropSpace cs with
  | [] => none
  | c :: rest =>
    if c == close then some ([], rest) else itemsFrom item close [] (rest.length + 1) (c :: rest)

def member {α : Type} (item : Reader α) : Reader (String × α) := fun cs =>
  match dropSpace cs with
  | '"' :: cs =>
    match textBody [] cs with
    | none => none
    | some (key, cs) =>
      match dropSpace cs with
      | ':' :: cs => (item cs).map fun (x, cs) => ((key, x), cs)
      | _ => none
  | _ => none

def document : Nat → Reader Document
  | 0, cs => scalar (dropSpace cs)
  | depth + 1, cs =>
    match dropSpace cs with
    | '[' :: cs => (items (document depth) ']' cs).map fun (xs, cs) => (.array xs, cs)
    | '{' :: cs => (items (member (document depth)) '}' cs).map fun (ms, cs) => (.object ms, cs)
    | cs => scalar cs

def greatestDepth : Nat := 127

def read? (text : String) : Option Document :=
  match document greatestDepth text.toList with
  | some (d, rest) => if (dropSpace rest).isEmpty then some d else none
  | none => none

def parse? (text : String) : Option Value := (read? text).bind Document.value?

end Rendezvous.Json
