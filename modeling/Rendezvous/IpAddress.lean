import Rendezvous.Text.Digit
import Rendezvous.Text.Split

namespace Rendezvous

inductive IpAddress where
  | v4 (a b c d : Nat)
  | v6 (groups : List Nat)
deriving DecidableEq, Repr

namespace IpAddress

def part? (cs : List Char) : Option Nat :=
  if cs.length ≤ 3 && (cs.length ≤ 1 || cs.head? ≠ some '0') then
    (Text.number? 10 cs).filter (· < 256)
  else none

def readV4 (cs : List Char) : Option (Nat × Nat × Nat × Nat) :=
  match (Text.splitAll '.' cs).map part? with
  | [some a, some b, some c, some d] => some (a, b, c, d)
  | _ => none

def group? (cs : List Char) : Option Nat := if cs.length ≤ 4 then Text.number? 16 cs else none

def groups? (decimalEnd : Bool) : List (List Char) → Option (List Nat)
  | [] => some []
  | [p] =>
    match group? p, readV4 p with
    | some g, _ => some [g]
    | none, some (a, b, c, d) => if decimalEnd then some [a * 256 + b, c * 256 + d] else none
    | none, none => none
  | p :: ps => (group? p).bind fun g => (groups? decimalEnd ps).map (g :: ·)

def side? (decimalEnd : Bool) (cs : List Char) : Option (List Nat) :=
  if cs.isEmpty then some [] else groups? decimalEnd (Text.splitAll ':' cs)

def splitGap? : List Char → Option (List Char × List Char)
  | ':' :: ':' :: cs => some ([], cs)
  | c :: cs => (splitGap? cs).map fun (l, r) => (c :: l, r)
  | [] => none

def readV6 (cs : List Char) : Option (List Nat) :=
  match splitGap? cs with
  | none => (side? true cs).filter fun gs => gs.length == 8
  | some (l, r) =>
    match side? false l, side? true r with
    | some left, some right =>
      if left.length + right.length ≤ 7 then
        some (left ++ List.replicate (8 - left.length - right.length) 0 ++ right)
      else none
    | _, _ => none

def read? (s : String) : Option IpAddress :=
  match readV4 s.toList with
  | some (a, b, c, d) => some (.v4 a b c d)
  | none => (readV6 s.toList).map .v6

def textV4 (a b c d : Nat) : String :=
  toString a ++ "." ++ toString b ++ "." ++ toString c ++ "." ++ toString d

def hex (n : Nat) : String := String.ofList (Nat.toDigits 16 n)

def hexGroups (gs : List Nat) : String := ":".intercalate (gs.map hex)

def zerosAt (gs : List Nat) (i : Nat) : Nat := ((gs.drop i).takeWhile (· = 0)).length

def longestZeros (gs : List Nat) : Nat × Nat :=
  (List.range gs.length).foldl (fun best i =>
    let n := zerosAt gs i
    if best.2 < n then (i, n) else best) (0, 0)

def textV6 (gs : List Nat) : String :=
  match gs with
  | [0, 0, 0, 0, 0, 0xffff, g, h] =>
    "::ffff:" ++ textV4 (g / 256) (g % 256) (h / 256) (h % 256)
  | gs =>
    let (start, n) := longestZeros gs
    if n ≤ 1 then hexGroups gs
    else hexGroups (gs.take start) ++ "::" ++ hexGroups (gs.drop (start + n))

def text : IpAddress → String
  | v4 a b c d => textV4 a b c d
  | v6 gs => textV6 gs

end IpAddress

end Rendezvous
