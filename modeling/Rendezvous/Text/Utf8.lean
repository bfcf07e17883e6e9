/-!
UTF-8 as a reader of single octets. An octet that no well-formed text could hold at its place is
refused at once, so a text that arrives in pieces is checked piece by piece.
-/

namespace Rendezvous.Text

def encode (s : String) : List UInt8 := s.toUTF8.toList

namespace Utf8

structure Reader where
  text : List Char := []
  code : Nat := 0
  more : Nat := 0
  low : UInt8 := 0x80
  high : UInt8 := 0xBF

def Reader.start : Reader := {}

def Reader.complete (r : Reader) : Bool := r.more == 0

def Reader.lead (r : Reader) (b : UInt8) : Option Reader :=
  let n := b.toNat
  if b < 0x80 then some ⟨Char.ofNat n :: r.text, 0, 0, 0x80, 0xBF⟩
  else if b < 0xC2 then none
  else if b < 0xE0 then some ⟨r.text, n - 0xC0, 1, 0x80, 0xBF⟩
  else if b == 0xE0 then some ⟨r.text, 0, 2, 0xA0, 0xBF⟩
  else if b == 0xED then some ⟨r.text, n - 0xE0, 2, 0x80, 0x9F⟩
  else if b < 0xF0 then some ⟨r.text, n - 0xE0, 2, 0x80, 0xBF⟩
  else if b == 0xF0 then some ⟨r.text, 0, 3, 0x90, 0xBF⟩
  else if b < 0xF4 then some ⟨r.text, n - 0xF0, 3, 0x80, 0xBF⟩
  else if b == 0xF4 then some ⟨r.text, n - 0xF0, 3, 0x80, 0x8F⟩
  else none

def Reader.step (r : Reader) (b : UInt8) : Option Reader :=
  match r.more with
  | 0 => r.lead b
  | more + 1 =>
    if r.low ≤ b && b ≤ r.high then
      let code := r.code * 64 + (b.toNat - 0x80)
      if more == 0 then some ⟨Char.ofNat code :: r.text, 0, 0, 0x80, 0xBF⟩
      else some ⟨r.text, code, more, 0x80, 0xBF⟩
    else none

def Reader.feed (r : Reader) : List UInt8 → Option Reader
  | [] => some r
  | b :: bs =>
    match r.step b with
    | none => none
    | some r => r.feed bs

def Reader.finish? (r : Reader) : Option String :=
  if r.complete then some (String.ofList r.text.reverse) else none

end Utf8

def decode? (bs : List UInt8) : Option String :=
  (Utf8.Reader.start.feed bs).bind Utf8.Reader.finish?

end Rendezvous.Text
