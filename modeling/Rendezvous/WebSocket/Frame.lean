namespace Rendezvous.WebSocket

inductive Opcode where
  | continuation | text | binary | close | ping | pong
deriving DecidableEq, Repr

def Opcode.code : Opcode → Nat
  | .continuation => 0
  | .text => 1
  | .binary => 2
  | .close => 8
  | .ping => 9
  | .pong => 10

def Opcode.ofCode? : Nat → Option Opcode
  | 0 => some .continuation
  | 1 => some .text
  | 2 => some .binary
  | 8 => some .close
  | 9 => some .ping
  | 10 => some .pong
  | _ => none

def Opcode.isControl : Opcode → Bool
  | .close | .ping | .pong => true
  | _ => false

structure Mask where
  a : UInt8
  b : UInt8
  c : UInt8
  d : UInt8
deriving DecidableEq, Repr

def Mask.octets (m : Mask) : List UInt8 := [m.a, m.b, m.c, m.d]

def Mask.apply (m : Mask) (bs : List UInt8) : List UInt8 :=
  bs.mapIdx fun i x => x ^^^ m.octets.getD (i % 4) 0

structure Header where
  final : Bool
  reserved : Nat
  opcode : Opcode
  mask : Option Mask
  length : Nat
deriving DecidableEq, Repr

structure Frame where
  final : Bool := true
  reserved : Nat := 0
  opcode : Opcode
  mask : Option Mask := none
  payload : List UInt8
deriving DecidableEq, Repr

inductive Reading (α : Type) where
  | more
  | invalid
  | done (a : α) (rest : List UInt8)
deriving Repr

def natOfOctets (bs : List UInt8) : Nat := bs.foldl (fun n b => n * 256 + b.toNat) 0

def octetsOfNat : Nat → Nat → List UInt8
  | 0, _ => []
  | k + 1, n => (n / 256 ^ k).toUInt8 :: octetsOfNat k n

def readLength (short : Nat) (bs : List UInt8) : Reading Nat :=
  let size := if short = 126 then 2 else if short = 127 then 8 else 0
  if size = 0 then .done short bs
  else if bs.length < size then .more
  else .done (natOfOctets (bs.take size)) (bs.drop size)

def readMask (masked : Bool) (bs : List UInt8) : Reading (Option Mask) :=
  if masked then
    match bs with
    | a :: b :: c :: d :: rest => .done (some ⟨a, b, c, d⟩) rest
    | _ => .more
  else .done none bs

def Header.read : List UInt8 → Reading Header
  | first :: second :: bs =>
    let first := first.toNat
    let second := second.toNat
    match readLength (second % 128) bs with
    | .done length bs =>
      match readMask (second / 128 == 1) bs with
      | .done mask rest =>
        match Opcode.ofCode? (first % 16) with
        | some opcode => .done ⟨first / 128 == 1, first / 16 % 8, opcode, mask, length⟩ rest
        | none => .invalid
      | .more => .more
      | .invalid => .invalid
    | .more => .more
    | .invalid => .invalid
  | _ => .more

def Header.frame (h : Header) (payload : List UInt8) : Frame :=
  ⟨h.final, h.reserved, h.opcode, h.mask, match h.mask with
    | none => payload
    | some m => m.apply payload⟩

def Frame.read (limit : Nat) (bs : List UInt8) : Reading Frame :=
  match Header.read bs with
  | .more => .more
  | .invalid => .invalid
  | .done h rest =>
    if limit < h.length then .invalid
    else
      let payload := rest.take h.length
      if payload.length < h.length then .more else .done (h.frame payload) (rest.drop h.length)

def lengthOctets (masked : Bool) (n : Nat) : List UInt8 :=
  let bit := if masked then 128 else 0
  if n < 126 then [(bit + n).toUInt8]
  else if n < 65536 then (bit + 126).toUInt8 :: octetsOfNat 2 n
  else (bit + 127).toUInt8 :: octetsOfNat 8 n

def encodeFrame (first : UInt8) (mask : Option Mask) (payload : List UInt8) : List UInt8 :=
  let head := first :: lengthOctets mask.isSome payload.length
  match mask with
  | none => head ++ payload
  | some m => head ++ m.octets ++ m.apply payload

def firstOctet (final : Bool) (reserved opcode : Nat) : UInt8 :=
  ((if final then 128 else 0) + reserved % 8 * 16 + opcode % 16).toUInt8

def Frame.encode (f : Frame) : List UInt8 :=
  encodeFrame (firstOctet f.final f.reserved f.opcode.code) f.mask f.payload

end Rendezvous.WebSocket
