import LineTagger.Charset.Bytes

/-!
Character sets of one byte: the bytes of ASCII stand for themselves, and a table tells the rest.
-/

namespace LineTagger.Charset

/-- A character set of one byte. -/
inductive SingleByte where
  | ascii
  | latin1
  | cp1252
  | latin9
  | koi8r
  deriving DecidableEq, Repr, Inhabited

namespace SingleByte

/-- Code points of the bytes from 128 on in the Windows set for western languages; zero is none. -/
def cp1252Table : List Nat := [
  8364, 0, 8218, 402, 8222, 8230, 8224, 8225, 710, 8240, 352, 8249, 338, 0, 381, 0, 0, 8216, 8217,
  8220, 8221, 8226, 8211, 8212, 732, 8482, 353, 8250, 339, 0, 382, 376, 160, 161, 162, 163, 164,
  165, 166, 167, 168, 169, 170, 171, 172, 173, 174, 175, 176, 177, 178, 179, 180, 181, 182, 183,
  184, 185, 186, 187, 188, 189, 190, 191, 192, 193, 194, 195, 196, 197, 198, 199, 200, 201, 202,
  203, 204, 205, 206, 207, 208, 209, 210, 211, 212, 213, 214, 215, 216, 217, 218, 219, 220, 221,
  222, 223, 224, 225, 226, 227, 228, 229, 230, 231, 232, 233, 234, 235, 236, 237, 238, 239, 240,
  241, 242, 243, 244, 245, 246, 247, 248, 249, 250, 251, 252, 253, 254, 255]

/-- Code points of the bytes from 128 on in ISO 8859-15. -/
def latin9Table : List Nat := [
  128, 129, 130, 131, 132, 133, 134, 135, 136, 137, 138, 139, 140, 141, 142, 143, 144, 145, 146,
  147, 148, 149, 150, 151, 152, 153, 154, 155, 156, 157, 158, 159, 160, 161, 162, 163, 8364, 165,
  352, 167, 353, 169, 170, 171, 172, 173, 174, 175, 176, 177, 178, 179, 381, 181, 182, 183, 382,
  185, 186, 187, 338, 339, 376, 191, 192, 193, 194, 195, 196, 197, 198, 199, 200, 201, 202, 203,
  204, 205, 206, 207, 208, 209, 210, 211, 212, 213, 214, 215, 216, 217, 218, 219, 220, 221, 222,
  223, 224, 225, 226, 227, 228, 229, 230, 231, 232, 233, 234, 235, 236, 237, 238, 239, 240, 241,
  242, 243, 244, 245, 246, 247, 248, 249, 250, 251, 252, 253, 254, 255]

/-- Code points of the bytes from 128 on in KOI8-R. -/
def koi8rTable : List Nat := [
  9472, 9474, 9484, 9488, 9492, 9496, 9500, 9508, 9516, 9524, 9532, 9600, 9604, 9608, 9612, 9616,
  9617, 9618, 9619, 8992, 9632, 8729, 8730, 8776, 8804, 8805, 160, 8993, 176, 178, 183, 247, 9552,
  9553, 9554, 1105, 9555, 9556, 9557, 9558, 9559, 9560, 9561, 9562, 9563, 9564, 9565, 9566, 9567,
  9568, 9569, 1025, 9570, 9571, 9572, 9573, 9574, 9575, 9576, 9577, 9578, 9579, 9580, 169, 1102,
  1072, 1073, 1094, 1076, 1077, 1092, 1075, 1093, 1080, 1081, 1082, 1083, 1084, 1085, 1086, 1087,
  1103, 1088, 1089, 1090, 1091, 1078, 1074, 1100, 1099, 1079, 1096, 1101, 1097, 1095, 1098, 1070,
  1040, 1041, 1062, 1044, 1045, 1060, 1043, 1061, 1048, 1049, 1050, 1051, 1052, 1053, 1054, 1055,
  1071, 1056, 1057, 1058, 1059, 1046, 1042, 1068, 1067, 1047, 1064, 1069, 1065, 1063, 1066]

/-- Code points of the bytes from 128 on; zero, or no entry at all, is none. -/
def upper : SingleByte → List Nat
  | ascii => []
  | latin1 => List.range' 128 128
  | cp1252 => cp1252Table
  | latin9 => latin9Table
  | koi8r => koi8rTable

def codecName : SingleByte → String
  | ascii => "ascii"
  | latin1 => "latin-1"
  | _ => "charmap"

/-- Why a byte or a character has no counterpart. -/
def reason : SingleByte → String
  | ascii => "ordinal not in range(128)"
  | latin1 => "ordinal not in range(256)"
  | _ => "character maps to <undefined>"

/-- The character of a byte. -/
def char? (t : SingleByte) (b : UInt8) : Option Char :=
  if b.toNat < 128 then some (Char.ofNat b.toNat)
  else match t.upper[b.toNat - 128]? with
    | none | some 0 => none
    | some n => some (Char.ofNat n)

/-- The byte of a character. -/
def byte? (t : SingleByte) (c : Char) : Option UInt8 :=
  if c.toNat < 128 then some (UInt8.ofNat c.toNat)
  else (t.upper.findIdx? (· = c.toNat)).map fun i => UInt8.ofNat (128 + i)

/-- Decodes the rest of some bytes, which starts at offset `pos`; `acc` is the text so far, last
first. -/
def decodeFrom (t : SingleByte) (pos : Nat) (acc : List Char) : Bytes → Except Fault (List Char)
  | [] => .ok acc.reverse
  | b :: rest =>
    match t.char? b with
    | some c => decodeFrom t (pos + 1) (c :: acc) rest
    | none => undecodable t.codecName b pos 1 t.reason

def decode (t : SingleByte) (s : Bytes) : Except Fault (List Char) := decodeFrom t 0 [] s

/-- Encodes the rest of a text, which starts at offset `pos`; `acc` is the bytes so far, last first.
A fault spans every character in a row that has no byte. -/
def encodeFrom (t : SingleByte) (pos : Nat) (acc : Bytes) : List Char → Except Fault Bytes
  | [] => .ok acc.reverse
  | c :: rest =>
    match t.byte? c with
    | some b => encodeFrom t (pos + 1) (b :: acc) rest
    | none =>
      let n := (rest.takeWhile fun d => (t.byte? d).isNone).length
      .error (.unencodable t.codecName c pos (pos + 1 + n) t.reason)

def encode (t : SingleByte) (s : List Char) : Except Fault Bytes := encodeFrom t 0 [] s

end SingleByte

end LineTagger.Charset
