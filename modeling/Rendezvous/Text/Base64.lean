namespace Rendezvous.Text.Base64

def alphabet : List Char :=
  "ABCDEFGHIJKLMNOPQRSTUVWXYZabcdefghijklmnopqrstuvwxyz0123456789+/".toList

def char (n : Nat) : Char := alphabet.getD n '='

def encodeChars : List UInt8 → List Char
  | [] => []
  | [a] =>
    let n := a.toNat * 16
    [char (n / 64), char (n % 64), '=', '=']
  | [a, b] =>
    let n := (a.toNat * 256 + b.toNat) * 4
    [char (n / 4096), char (n / 64 % 64), char (n % 64), '=']
  | a :: b :: c :: rest =>
    let n := (a.toNat * 256 + b.toNat) * 256 + c.toNat
    char (n / 262144) :: char (n / 4096 % 64) :: char (n / 64 % 64) :: char (n % 64) ::
      encodeChars rest

def encode (bs : List UInt8) : String := String.ofList (encodeChars bs)

def value? (c : Char) : Option Nat := alphabet.idxOf? c

def octet? (a b : Char) : Option (List UInt8) := do
  let x ← value? a
  let y ← value? b
  return [UInt8.ofNat (x * 4 + y / 16)]

def octets2? (a b c : Char) : Option (List UInt8) := do
  let first ← octet? a b
  let y ← value? b
  let z ← value? c
  return first ++ [UInt8.ofNat (y * 16 + z / 4)]

def octets3? (a b c d : Char) : Option (List UInt8) := do
  let two ← octets2? a b c
  let z ← value? c
  let u ← value? d
  return two ++ [UInt8.ofNat (z * 64 + u)]

def decodeChars : List Char → Option (List UInt8)
  | [] => some []
  | [_] => none
  | [a, b] => octet? a b
  | [a, b, c] => octets2? a b c
  | [a, b, '=', '='] => octet? a b
  | [a, b, c, '='] => octets2? a b c
  | a :: b :: c :: d :: rest => do
    let group ← octets3? a b c d
    let others ← decodeChars rest
    return group ++ others

end Rendezvous.Text.Base64
