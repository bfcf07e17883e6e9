import Rendezvous.Json.Basic
import Rendezvous.Binary64.Shortest

namespace Rendezvous.Json

def hexDigits : List Char := "0123456789abcdef".toList

def hexChar (n : Nat) : Char := hexDigits.getD n '0'

def escapeChar (c : Char) : List Char :=
  match c with
  | '"' => ['\\', '"']
  | '\\' => ['\\', '\\']
  | '\x08' => ['\\', 'b']
  | '\x0c' => ['\\', 'f']
  | '\n' => ['\\', 'n']
  | '\r' => ['\\', 'r']
  | '\t' => ['\\', 't']
  | c =>
    if c.toNat < 0x20 then ['\\', 'u', '0', '0', hexChar (c.toNat / 16), hexChar (c.toNat % 16)]
    else [c]

def quote (s : String) : List Char := '"' :: s.toList.flatMap escapeChar ++ ['"']

def leastPositional : Int := -5
def greatestPositional : Int := 15

def digitChars (ds : List Nat) : List Char := ds.map Nat.digitChar

def positional (ds : List Nat) (e : Int) : List Char :=
  if e < 0 then '0' :: '.' :: List.replicate (-e - 1).toNat '0' ++ digitChars ds
  else
    let n := e.toNat + 1
    let padded := ds ++ List.replicate (n - ds.length) 0
    let fraction := padded.drop n
    digitChars (padded.take n) ++ '.' :: digitChars (if fraction.isEmpty then [0] else fraction)

def scientific (ds : List Nat) (e : Int) : List Char :=
  let exponent := (if e < 0 then "-" else "+") ++ toString e.natAbs
  match ds with
  | [] => []
  | [d] => digitChars [d] ++ 'e' :: exponent.toList
  | d :: ds => digitChars [d] ++ '.' :: digitChars ds ++ 'e' :: exponent.toList

def writeReal (x : Binary64) : List Char :=
  let sign := if x.negative then ['-'] else []
  if x.isZero then sign ++ ['0', '.', '0']
  else
    let d := x.shortest
    if leastPositional ≤ d.exponent && d.exponent ≤ greatestPositional then
      sign ++ positional d.digits d.exponent
    else sign ++ scientific d.digits d.exponent

def Number.write : Number → List Char
  | .integer n => (toString n).toList
  | .real x => writeReal x

def Number.text (n : Number) : String := String.ofList n.write

mutual

def Tree.write : Tree Number → List Char
  | .null => ['n', 'u', 'l', 'l']
  | .boolean true => ['t', 'r', 'u', 'e']
  | .boolean false => ['f', 'a', 'l', 's', 'e']
  | .number n => n.write
  | .text s => quote s
  | .array items => '[' :: Tree.writeItems items
  | .object members => '{' :: Tree.writeMembers members

def Tree.writeItems : List (Tree Number) → List Char
  | [] => [']']
  | [x] => Tree.write x ++ [']']
  | x :: xs => Tree.write x ++ ',' :: Tree.writeItems xs

def Tree.writeMembers : List (String × Tree Number) → List Char
  | [] => ['}']
  | [(k, x)] => quote k ++ ':' :: Tree.write x ++ ['}']
  | (k, x) :: ms => quote k ++ ':' :: Tree.write x ++ ',' :: Tree.writeMembers ms

end

def render (v : Value) : String := String.ofList v.write

end Rendezvous.Json
