import LineTagger.Charset.Bytes

/-!
UTF-16 and UTF-32: code units of two and four bytes in either order.
-/

namespace LineTagger.Charset

/-- Which byte of a unit comes first. -/
inductive ByteOrder where
  | little
  | big
  deriving DecidableEq, Repr, Inhabited

namespace ByteOrder

def suffixName : ByteOrder → String
  | little => "le"
  | big => "be"

/-- The bytes of a unit, given from the least one on, in their order. -/
def arrange (o : ByteOrder) (bs : Bytes) : Bytes :=
  match o with
  | little => bs
  | big => bs.reverse

/-- The number that the bytes of a unit hold. -/
def unit (o : ByteOrder) (bs : Bytes) : Nat :=
  (o.arrange bs).foldr (fun b n => b.toNat + 256 * n) 0

end ByteOrder

namespace Utf16

def unitBytes (o : ByteOrder) (n : Nat) : Bytes :=
  o.arrange [UInt8.ofNat (n % 256), UInt8.ofNat (n / 256)]

/-- One unit for a character of the basic plane, a pair of surrogates for any other. -/
def encodeChar (o : ByteOrder) (c : Char) : Bytes :=
  let n := c.toNat
  if n < 0x10000 then unitBytes o n
  else
    let m := n - 0x10000
    unitBytes o (0xD800 + m / 0x400) ++ unitBytes o (0xDC00 + m % 0x400)

def encode (o : ByteOrder) (s : List Char) : Bytes := s.flatMap (encodeChar o)

def isHigh (n : Nat) : Bool := 0xD800 ≤ n && n < 0xDC00
def isLow (n : Nat) : Bool := 0xDC00 ≤ n && n < 0xE000

def codecName (o : ByteOrder) : String := "utf-16-" ++ o.suffixName

/-- Decodes the rest of some bytes, which starts at offset `pos`; `acc` is the text so far, last
first. -/
def decodeFrom (o : ByteOrder) (pos : Nat) (acc : List Char) : Bytes → Except Fault (List Char)
  | [] => .ok acc.reverse
  | [b] => undecodable (codecName o) b pos 1 "truncated data"
  | a :: b :: rest =>
    let n := o.unit [a, b]
    if isLow n then undecodable (codecName o) a pos 2 "illegal encoding"
    else if isHigh n then
      match rest with
      | c :: d :: rest =>
        let m := o.unit [c, d]
        if isLow m then
          decodeFrom o (pos + 4)
            (Char.ofNat (0x10000 + (n - 0xD800) * 0x400 + (m - 0xDC00)) :: acc) rest
        else undecodable (codecName o) a pos 2 "illegal UTF-16 surrogate"
      | rest => undecodable (codecName o) a pos (2 + rest.length) "unexpected end of data"
    else decodeFrom o (pos + 2) (Char.ofNat n :: acc) rest

/-- Decodes after a byte order mark, which tells the order; without one, little end first. -/
def decodeMarked (s : Bytes) : Except Fault (List Char) :=
  match s with
  | 0xFF :: 0xFE :: rest => decodeFrom .little 2 [] rest
  | 0xFE :: 0xFF :: rest => decodeFrom .big 2 [] rest
  | s => decodeFrom .little 0 [] s

end Utf16

namespace Utf32

def encodeChar (o : ByteOrder) (c : Char) : Bytes :=
  let n := c.toNat
  o.arrange [UInt8.ofNat (n % 256), UInt8.ofNat (n / 256 % 256), UInt8.ofNat (n / 65536), 0]

def encode (o : ByteOrder) (s : List Char) : Bytes := s.flatMap (encodeChar o)

def codecName (o : ByteOrder) : String := "utf-32-" ++ o.suffixName

/-- Decodes the rest of some bytes, which starts at offset `pos`; `acc` is the text so far, last
first. -/
def decodeFrom (o : ByteOrder) (pos : Nat) (acc : List Char) : Bytes → Except Fault (List Char)
  | [] => .ok acc.reverse
  | a :: b :: c :: d :: rest =>
    let n := o.unit [a, b, c, d]
    if 0xD800 ≤ n ∧ n < 0xE000 then
      undecodable (codecName o) a pos 4 "code point in surrogate code point range(0xd800, 0xe000)"
    else if n ≥ 0x110000 then
      undecodable (codecName o) a pos 4 "code point not in range(0x110000)"
    else decodeFrom o (pos + 4) (Char.ofNat n :: acc) rest
  | a :: rest => undecodable (codecName o) a pos (1 + rest.length) "truncated data"

/-- Decodes after a byte order mark, which tells the order; without one, little end first. -/
def decodeMarked (s : Bytes) : Except Fault (List Char) :=
  match s with
  | 0xFF :: 0xFE :: 0 :: 0 :: rest => decodeFrom .little 4 [] rest
  | 0 :: 0 :: 0xFE :: 0xFF :: rest => decodeFrom .big 4 [] rest
  | s => decodeFrom .little 0 [] s

end Utf32

end LineTagger.Charset
