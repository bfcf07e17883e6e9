import Rendezvous.Text.Digit
import Rendezvous.Text.Split

namespace Rendezvous.Toml

def bounded? (size least greatest : Nat) (cs : List Char) : Option Nat :=
  if cs.length = size then (Text.number? 10 cs).filter fun n => least ≤ n && n ≤ greatest else none

def isLeapYear (y : Nat) : Bool := y % 4 == 0 && (y % 100 != 0 || y % 400 == 0)

def daysOf (year month : Nat) : Nat :=
  if month = 2 then if isLeapYear year then 29 else 28
  else if month = 4 ∨ month = 6 ∨ month = 9 ∨ month = 11 then 30
  else 31

def isDate (cs : List Char) : Bool :=
  match Text.splitAll '-' cs with
  | [y, m, d] =>
    match bounded? 4 0 9999 y, bounded? 2 1 12 m with
    | some y, some m => (bounded? 2 1 (daysOf y m) d).isSome
    | _, _ => false
  | _ => false

def isHour (cs : List Char) : Bool := (bounded? 2 0 23 cs).isSome

def isMinute (cs : List Char) : Bool := (bounded? 2 0 59 cs).isSome

def isSecond (cs : List Char) : Bool :=
  match Text.splitFirst? '.' cs with
  | none => (bounded? 2 0 60 cs).isSome
  | some (whole, part) =>
    (bounded? 2 0 60 whole).isSome && !part.isEmpty && part.all Text.isDecimal

def isTime (cs : List Char) : Bool :=
  match Text.splitAll ':' cs with
  | [h, m, s] => isHour h && isMinute m && isSecond s
  | _ => false

def isOffset (cs : List Char) : Bool :=
  match Text.splitAll ':' cs with
  | [h, m] => isHour h && isMinute m
  | _ => false

def isZonedTime (cs : List Char) : Bool :=
  let time := cs.takeWhile fun c => c.isDigit || c == ':' || c == '.'
  isTime time &&
    match cs.drop time.length with
    | [] => true
    | c :: rest =>
      if c == 'Z' || c == 'z' then rest.isEmpty else (c == '+' || c == '-') && isOffset rest

def isMoment (cs : List Char) : Bool :=
  match cs.drop 10 with
  | [] => isDate cs || isTime cs
  | c :: rest =>
    isTime cs || ((c == 'T' || c == 't') && isDate (cs.take 10) && isZonedTime rest)

end Rendezvous.Toml
