namespace Rendezvous.Tls.Der

def numberOf (bs : List UInt8) : Nat := bs.foldl (fun n b => n * 0x100 + b.toNat) 0

def octetsFrom (n : Nat) (rest : List UInt8) : List UInt8 :=
  if n = 0 then rest else octetsFrom (n / 0x100) (UInt8.ofNat n :: rest)
termination_by n

def octetsOf (n : Nat) : List UInt8 := octetsFrom n []

structure Element where
  tag : UInt8
  content : List UInt8
deriving DecidableEq, Repr

namespace Tag

def boolean : UInt8 := 0x01

def integer : UInt8 := 0x02

def bits : UInt8 := 0x03

def octets : UInt8 := 0x04

def null : UInt8 := 0x05

def identifier : UInt8 := 0x06

def sequence : UInt8 := 0x30

def context (n : UInt8) : UInt8 := 0xA0 + n

end Tag

def encodeLength (n : Nat) : List UInt8 :=
  if n < 0x80 then [UInt8.ofNat n]
  else if n < 0x100 then [0x81, UInt8.ofNat n]
  else [0x82, UInt8.ofNat (n / 0x100), UInt8.ofNat n]

def Element.encode (e : Element) : List UInt8 :=
  e.tag :: encodeLength e.content.length ++ e.content

def sequence (parts : List Element) : Element := ⟨Tag.sequence, parts.flatMap Element.encode⟩

def length? : List UInt8 → Option (Nat × List UInt8)
  | 0x81 :: a :: bs => if a < 0x80 then none else some (a.toNat, bs)
  | 0x82 :: a :: b :: bs => if a = 0 then none else some (a.toNat * 0x100 + b.toNat, bs)
  | a :: bs => if a < 0x80 then some (a.toNat, bs) else none
  | [] => none

def read? : List UInt8 → Option (Element × List UInt8)
  | [] => none
  | tag :: bs =>
    match length? bs with
    | none => none
    | some (n, bs) => if n ≤ bs.length then some (⟨tag, bs.take n⟩, bs.drop n) else none

theorem length_length? {bs rest : List UInt8} {n : Nat} (h : length? bs = some (n, rest)) :
    rest.length ≤ bs.length := by
  unfold length? at h
  split at h <;> grind

theorem length_read? {bs rest : List UInt8} {e : Element} (h : read? bs = some (e, rest)) :
    rest.length < bs.length := by
  cases bs with
  | nil => simp [read?] at h
  | cons tag bs =>
    rw [read?] at h
    split at h
    · simp at h
    · next n cs hl =>
      have := length_length? hl
      split at h
      · obtain ⟨rfl, rfl⟩ : _ ∧ cs.drop n = rest := by simpa using h
        simp only [List.length_drop, List.length_cons]
        omega
      · simp at h

def readAll? (bs : List UInt8) : Option (List Element) :=
  if bs = [] then some []
  else
    match _ : read? bs with
    | none => none
    | some (e, rest) => (readAll? rest).map (e :: ·)
termination_by bs.length
decreasing_by exact length_read? (by assumption)

def Element.parts? (tag : UInt8) (e : Element) : Option (List Element) :=
  if e.tag = tag then readAll? e.content else none

def parts? (bs : List UInt8) : Option (List Element) :=
  match read? bs with
  | some (e, []) => e.parts? Tag.sequence
  | _ => none

def natural? (e : Element) : Option Nat :=
  if e.tag = Tag.integer then
    match e.content with
    | [] => none
    | [b] => if b < 0x80 then some b.toNat else none
    | 0 :: b :: bs => if b < 0x80 then none else some (numberOf (b :: bs))
    | b :: bs => if b < 0x80 then some (numberOf (b :: bs)) else none
  else none

def integer (n : Nat) : Element :=
  let bs := octetsOf n
  ⟨Tag.integer, if bs.head?.all (· < 0x80) && !bs.isEmpty then bs else 0 :: bs⟩

end Rendezvous.Tls.Der
