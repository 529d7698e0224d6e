import LineTagger.Charset.Bytes

/-!
UTF-8: one to four bytes for a character, the shortest form only.
-/

namespace LineTagger.Charset.Utf8

/-- A continuation byte that carries six bits. -/
def continuation (n : Nat) : UInt8 := UInt8.ofNat (0x80 + n % 64)

/-- The bytes of a character. -/
def encodeChar (c : Char) : Bytes :=
  let n := c.toNat
  if n < 0x80 then [UInt8.ofNat n]
  else if n < 0x800 then [UInt8.ofNat (0xC0 + n / 64), continuation n]
  else if n < 0x10000 then
    [UInt8.ofNat (0xE0 + n / 4096), continuation (n / 64), continuation n]
  else
    [UInt8.ofNat (0xF0 + n / 262144), continuation (n / 4096), continuation (n / 64),
      continuation n]

def encode (s : List Char) : Bytes := s.flatMap encodeChar

/-- Where bytes are expected: any continuation byte. -/
def anyTail : Nat × Nat := (0x80, 0xBF)

/-- The ranges of the bytes that may follow a first byte, and the bits that the first byte carries.
The second byte is restricted where a longer form, a surrogate or a code point beyond the last would
come out. -/
def lead? (n : Nat) : Option (List (Nat × Nat) × Nat) :=
  if n < 0xC2 then none
  else if n < 0xE0 then some ([anyTail], n - 0xC0)
  else if n < 0xF0 then
    let second := if n = 0xE0 then (0xA0, 0xBF) else if n = 0xED then (0x80, 0x9F) else anyTail
    some ([second, anyTail], n - 0xE0)
  else if n < 0xF5 then
    let second := if n = 0xF0 then (0x90, 0xBF) else if n = 0xF4 then (0x80, 0x8F) else anyTail
    some ([second, anyTail, anyTail], n - 0xF0)
  else none

/-- What follows a first byte. -/
inductive Tail where
  /-- all continuation bytes, with the code point and the rest -/
  | whole (code : Nat) (rest : Bytes)
  /-- a byte out of range after `used` bytes that fit -/
  | broken (used : Nat)
  /-- the end of the bytes after `used` bytes that fit -/
  | short (used : Nat)

/-- Takes the bytes that must follow a first byte; `used` counts the bytes so far. -/
def follow (used bits : Nat) : List (Nat × Nat) → Bytes → Tail
  | [], s => .whole bits s
  | _ :: _, [] => .short used
  | (lo, hi) :: ranges, b :: s =>
    if lo ≤ b.toNat ∧ b.toNat ≤ hi then follow (used + 1) (bits * 64 + (b.toNat - 0x80)) ranges s
    else .broken used

/-- Decodes the rest of some bytes, which starts at offset `pos`; `acc` is the text so far, last
first, and `fuel` is at least the number of bytes left. -/
def decodeFrom : Nat → Nat → List Char → Bytes → Except Fault (List Char)
  | _, _, acc, [] => .ok acc.reverse
  | 0, _, acc, _ => .ok acc.reverse
  | fuel + 1, pos, acc, b :: s =>
    if b.toNat < 0x80 then decodeFrom fuel (pos + 1) (Char.ofNat b.toNat :: acc) s
    else match lead? b.toNat with
      | none => undecodable "utf-8" b pos 1 "invalid start byte"
      | some (ranges, bits) =>
        match follow 1 bits ranges s with
        | .whole code rest => decodeFrom fuel (pos + ranges.length + 1) (Char.ofNat code :: acc) rest
        | .broken used => undecodable "utf-8" b pos used "invalid continuation byte"
        | .short used => undecodable "utf-8" b pos used "unexpected end of data"

def decode (s : Bytes) : Except Fault (List Char) := decodeFrom s.length 0 [] s

/-- The byte order mark in UTF-8. -/
def signature : Bytes := [0xEF, 0xBB, 0xBF]

/-- Decodes after a signature, if there is one; offsets count from behind it. -/
def decodeSigned (s : Bytes) : Except Fault (List Char) :=
  if signature.isPrefixOf s then decode (s.drop 3) else decode s

end LineTagger.Charset.Utf8
