import LineTagger.Charset.Names
import LineTagger.Charset.SingleByte
import LineTagger.Charset.Utf8
import LineTagger.Charset.Wide

/-!
Character sets by name: how a name is looked up, and what encodes and decodes under it.
-/

namespace LineTagger

/-- What turns texts into bytes and back. `nameOnly` is a set or a transformation that is known by
name and converts no text here; `refusing` is the set that has no text at all. -/
inductive Codec where
  | utf8
  | utf8Signed
  | utf16 (order : Option Charset.ByteOrder)
  | utf32 (order : Option Charset.ByteOrder)
  | singleByte (t : Charset.SingleByte)
  | refusing
  | nameOnly
  deriving DecidableEq, Repr, Inhabited

namespace Charset

/-- Letters, digits and dots of a name in small letters, any other characters between two of them as
one low line; `between` tells that such characters came last. -/
def normalizeFrom (out : List Char) (between : Bool) : List Char → List Char
  | [] => out.reverse
  | c :: rest =>
    if c.isAlphanum || c = '.' then
      let out := if between && !out.isEmpty then '_' :: out else out
      normalizeFrom (c.toLower :: out) false rest
    else normalizeFrom out true rest

/-- The form of a name in which names are compared. -/
def normalize (name : String) : List Char := normalizeFrom [] false name.toList

/-- The name proper that a normalized name stands for. -/
def alias? (n : List Char) : Option String :=
  match aliases.lookup (String.ofList n) with
  | some m => some m
  | none => aliases.lookup (String.ofList (n.map fun c => if c = '.' then '_' else c))

/-- The name proper under which a set is known. -/
def properName? (name : String) : Option String :=
  let n := normalize name
  let own := if n.isEmpty || n.contains '.' then none else known.find? (· = String.ofList n)
  match alias? n with
  | some m => if known.contains m then some m else own
  | none => own

/-- The codec of a name proper. -/
def codecOf (proper : String) : Codec :=
  match proper with
  | "utf_8" => .utf8
  | "utf_8_sig" => .utf8Signed
  | "utf_16" => .utf16 none
  | "utf_16_le" => .utf16 (some .little)
  | "utf_16_be" => .utf16 (some .big)
  | "utf_32" => .utf32 none
  | "utf_32_le" => .utf32 (some .little)
  | "utf_32_be" => .utf32 (some .big)
  | "ascii" => .singleByte .ascii
  | "latin_1" => .singleByte .latin1
  | "cp1252" => .singleByte .cp1252
  | "iso8859_15" => .singleByte .latin9
  | "koi8_r" => .singleByte .koi8r
  | "undefined" => .refusing
  | _ => .nameOnly

/-- The codec of a name, if the name is known. -/
def find? (name : String) : Option Codec := (properName? name).map codecOf

/-- The name that a value is, for an argument of some callee. -/
def nameOf (callee : String) (v : Value) : Except Fault String :=
  match v.text? with
  | some name => .ok name
  | none => .error (.mismatch (.charsetNotText callee v.argumentTypeName))

/-- A name that holds a zero byte is no name. -/
def nameFault? (name : String) : Option Fault :=
  if name.toList.contains '\x00' then some (.value [.text "embedded null character"]) else none

/-- Whether a name is known. -/
def isKnown (name : String) : Except Fault Bool :=
  match nameFault? name with
  | some f => .error f
  | none => .ok (find? name).isSome

/-- Decodes under a codec; `name` is how it was asked for. -/
def decodeWith (name : String) (s : Bytes) : Codec → Except Fault (List Char)
  | .utf8 => Utf8.decode s
  | .utf8Signed => Utf8.decodeSigned s
  | .utf16 none => Utf16.decodeMarked s
  | .utf16 (some o) => Utf16.decodeFrom o 0 [] s
  | .utf32 none => Utf32.decodeMarked s
  | .utf32 (some o) => Utf32.decodeFrom o 0 [] s
  | .singleByte t => t.decode s
  | .refusing => .error (.undefinedCodec name true)
  | .nameOnly => .error (.notTextCharset name true)

/-- Encodes under a codec; `name` is how it was asked for. -/
def encodeWith (name : String) (s : List Char) : Codec → Except Fault Bytes
  | .utf8 => .ok (Utf8.encode s)
  | .utf8Signed => .ok (Utf8.signature ++ Utf8.encode s)
  | .utf16 none => .ok (Utf16.unitBytes .little 0xFEFF ++ Utf16.encode .little s)
  | .utf16 (some o) => .ok (Utf16.encode o s)
  | .utf32 none => .ok (Utf32.encodeChar .little '\uFEFF' ++ Utf32.encode .little s)
  | .utf32 (some o) => .ok (Utf32.encode o s)
  | .singleByte t => t.encode s
  | .refusing => .error (.undefinedCodec name false)
  | .nameOnly => .error (.notTextCharset name false)

/-- Decodes bytes; no bytes are no text under any name. -/
def decode (name : String) (s : Bytes) : Except Fault (List Char) :=
  match nameFault? name with
  | some f => .error f
  | none =>
    if s.isEmpty then .ok []
    else match find? name with
      | none => .error (.unknownCharset name)
      | some c => decodeWith name s c

/-- Encodes a text under a name. -/
def encode (name : String) (s : List Char) : Except Fault Bytes :=
  match nameFault? name with
  | some f => .error f
  | none =>
    match find? name with
    | none => .error (.unknownCharset name)
    | some c => encodeWith name s c

/-- Decodes bytes under a value that should be a name. -/
def decodeBy (charset : Value) (s : Bytes) : Except Fault (List Char) := do
  decode (← nameOf "decode() argument 'encoding'" charset) s

/-- Encodes a text under a value that should be a name. -/
def encodeBy (charset : Value) (s : List Char) : Except Fault Bytes := do
  encode (← nameOf "encode() argument 'encoding'" charset) s

section

variable {charset : Value} {name : String} (h : charset.text? = some name)

include h

theorem decodeBy_of_text? (s : Bytes) : decodeBy charset s = decode name s := by
  simp only [decodeBy, nameOf, h]
  rfl

theorem encodeBy_of_text? (s : List Char) : encodeBy charset s = encode name s := by
  simp only [encodeBy, nameOf, h]
  rfl

end

end Charset

end LineTagger
