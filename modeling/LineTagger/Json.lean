import LineTagger.Number.Numeral
import LineTagger.Value

/-!
Reading of JSON texts. A failure names what was expected and the rest of the text at that point, from
which its line and column follow.
-/

namespace LineTagger.Json

/-- What a text lacks or holds in the wrong place. -/
inductive Problem where
  | noValue
  | noName
  | noColon
  | noComma
  | extraData
  | openString
  | control
  | badEscape
  | badUnicodeEscape
  | byteOrderMark
  deriving DecidableEq, Repr, Inhabited

/-- Why a text is not read. -/
inductive Failure where
  /-- a problem where only `rest` of the text was left -/
  | misread (p : Problem) (rest : List Char)
  | tooManyDigits (n : Nat)
  | tooDeep (inArray : Bool)
  deriving DecidableEq, Repr, Inhabited

abbrev Result (α : Type) := Except Failure (α × List Char)

def isBlank (c : Char) : Bool := c = ' ' || c = '\t' || c = '\n' || c = '\r'

def skipBlanks (s : List Char) : List Char := s.dropWhile isBlank

def hexValue? (c : Char) : Option Nat :=
  if c.isDigit then some (c.toNat - 48)
  else if 'a' ≤ c ∧ c ≤ 'f' then some (c.toNat - 87)
  else if 'A' ≤ c ∧ c ≤ 'F' then some (c.toNat - 55)
  else none

/-- The number that four hexadecimal digits write, and what follows them. -/
def fourHex? : List Char → Option (Nat × List Char)
  | a :: b :: c :: d :: rest => do
    let a ← hexValue? a
    let b ← hexValue? b
    let c ← hexValue? c
    let d ← hexValue? d
    return (((a * 16 + b) * 16 + c) * 16 + d, rest)
  | _ => none

def isHighSurrogate (n : Nat) : Bool := 0xD800 ≤ n && n < 0xDC00
def isLowSurrogate (n : Nat) : Bool := 0xDC00 ≤ n && n < 0xE000

/-- The character of a code point; a surrogate that stands alone becomes the replacement character. -/
def charOf (n : Nat) : Char := if isHighSurrogate n || isLowSurrogate n then '\uFFFD' else Char.ofNat n

/-- Reads the digits of a `\u` escape, `s` being the text from the letter on. A high and a low
surrogate in two escapes make one character. -/
def unicodeEscape (s : List Char) : Result Char :=
  match fourHex? s.tail with
  | none => .error (.misread .badUnicodeEscape s)
  | some (_, []) => .error (.misread .badUnicodeEscape s)
  | some (n, rest) =>
    if !isHighSurrogate n then .ok (charOf n, rest)
    else match rest with
      | '\\' :: 'u' :: more =>
        if more.length ≤ 4 then .ok (charOf n, rest)
        else match fourHex? more with
          | none => .error (.misread .badUnicodeEscape ('u' :: more))
          | some (m, rest') =>
            if isLowSurrogate m then
              .ok (Char.ofNat (0x10000 + (n - 0xD800) * 0x400 + (m - 0xDC00)), rest')
            else .ok (charOf n, rest)
      | _ => .ok (charOf n, rest)

/-- The character of a one-letter escape. -/
def letterEscape? : Char → Option Char
  | '"' => some '"'
  | '\\' => some '\\'
  | '/' => some '/'
  | 'b' => some '\x08'
  | 'f' => some '\x0C'
  | 'n' => some '\n'
  | 'r' => some '\r'
  | 't' => some '\t'
  | _ => none

/-- Reads a string up to its closing quote. `opened` is the text from the opening quote on and `acc`
what was read already, last first. -/
def readString (opened : List Char) : Nat → List Char → List Char → Result (List Char)
  | 0, _, _ => .error (.misread .openString opened)
  | fuel + 1, acc, s =>
    match s with
    | [] => .error (.misread .openString opened)
    | '"' :: rest => .ok (acc.reverse, rest)
    | ['\\'] => .error (.misread .openString opened)
    | '\\' :: c :: rest =>
      if c = 'u' then
        match unicodeEscape (c :: rest) with
        | .error e => .error e
        | .ok (c, rest) => readString opened fuel (c :: acc) rest
      else match letterEscape? c with
        | none => .error (.misread .badEscape s)
        | some c => readString opened fuel (c :: acc) rest
    | c :: rest =>
      if c.toNat < 0x20 then .error (.misread .control s)
      else readString opened fuel (c :: acc) rest

/-- Reads an exponent, if the text starts with a whole one. -/
def readExponent (s : List Char) : Option (Int × List Char) :=
  match s with
  | c :: rest =>
    if c = 'e' ∨ c = 'E' then
      let (negative, rest) := Numeral.sign rest
      let ds := rest.takeWhile Char.isDigit
      if ds.isEmpty then none
      else
        let n : Int := Numeral.value ds
        some (if negative then -n else n, rest.dropWhile Char.isDigit)
    else none
  | [] => none

/-- Reads a number; without a fraction and an exponent it is whole. -/
def readNumber (s : List Char) : Result Value :=
  let (negative, digits) := match s with
    | '-' :: rest => (true, rest)
    | _ => (false, s)
  let whole := match digits with
    | '0' :: _ => ['0']
    | _ => digits.takeWhile Char.isDigit
  if whole.isEmpty then .error (.misread .noValue s)
  else
    let rest := digits.drop whole.length
    let part := match rest with
      | '.' :: more => more.takeWhile Char.isDigit
      | _ => []
    let rest' := if part.isEmpty then rest else rest.drop (part.length + 1)
    match readExponent rest' with
    | some (e, rest'') =>
      let x := Double.ofDecimal negative (Numeral.value (whole ++ part)) (e - part.length)
      .ok (.double x, rest'')
    | none =>
      if part.isEmpty then
        if whole.length > Numeral.digitLimit then .error (.tooManyDigits whole.length)
        else
          let n : Int := Numeral.value whole
          .ok (.int (if negative then -n else n), rest')
      else
        let x := Double.ofDecimal negative (Numeral.value (whole ++ part)) (-(part.length : Int))
        .ok (.double x, rest')

/-- The words that stand for a value. -/
def words : List (List Char × Value) := [
  ("null".toList, .null), ("true".toList, .bool true), ("false".toList, .bool false),
  ("NaN".toList, .double .nan), ("Infinity".toList, .double (.infinity false)),
  ("-Infinity".toList, .double (.infinity true))]

/-- Reads the word that the text starts with. -/
def readWord? (s : List Char) : Option (Value × List Char) :=
  (words.find? fun w => w.1.isPrefixOf s).map fun w => (w.2, s.drop w.1.length)

mutual

/-- Reads a value; `depth` is how many more arrays and objects may be open at once. -/
def readValue : Nat → Nat → List Char → Result Value
  | 0, _, s => .error (.misread .noValue s)
  | fuel + 1, depth, s =>
    match s with
    | '"' :: rest =>
      match readString s (rest.length + 1) [] rest with
      | .error e => .error e
      | .ok (t, rest) => .ok (.text (String.ofList t), rest)
    | '\x7b' :: rest =>
      if depth = 0 then .error (.tooDeep false)
      else match skipBlanks rest with
        | '\x7d' :: rest => .ok (.map [], rest)
        | rest => readMembers fuel (depth - 1) [] rest
    | '[' :: rest =>
      if depth = 0 then .error (.tooDeep true)
      else match skipBlanks rest with
        | ']' :: rest => .ok (.list [], rest)
        | rest => readElements fuel (depth - 1) [] rest
    | s =>
      match readWord? s with
      | some r => .ok r
      | none => readNumber s

/-- Reads the members of an object from a name on. -/
def readMembers : Nat → Nat → List (String × Value) → List Char → Result Value
  | 0, _, _, s => .error (.misread .noName s)
  | fuel + 1, depth, kvs, s =>
    match s with
    | '"' :: rest =>
      match readString s (rest.length + 1) [] rest with
      | .error e => .error e
      | .ok (name, rest) =>
        match skipBlanks rest with
        | ':' :: rest =>
          match readValue fuel depth (skipBlanks rest) with
          | .error e => .error e
          | .ok (v, rest) =>
            let kvs := Value.put kvs (String.ofList name) v
            match skipBlanks rest with
            | '\x7d' :: rest => .ok (.map kvs, rest)
            | ',' :: rest => readMembers fuel depth kvs (skipBlanks rest)
            | rest => .error (.misread .noComma rest)
        | rest => .error (.misread .noColon rest)
    | s => .error (.misread .noName s)

/-- Reads the elements of an array from a value on; `vs` are those read already, last first. -/
def readElements : Nat → Nat → List Value → List Char → Result Value
  | 0, _, _, s => .error (.misread .noValue s)
  | fuel + 1, depth, vs, s =>
    match readValue fuel depth s with
    | .error e => .error e
    | .ok (v, rest) =>
      match skipBlanks rest with
      | ']' :: rest => .ok (.list (v :: vs).reverse, rest)
      | ',' :: rest => readElements fuel depth (v :: vs) (skipBlanks rest)
      | rest => .error (.misread .noComma rest)

end

/-- Reads a whole text with at most `depth` arrays and objects open at once. -/
def readWithin (depth : Nat) (s : List Char) : Except Failure Value :=
  match s with
  | '\uFEFF' :: _ => .error (.misread .byteOrderMark s)
  | s =>
    match readValue (2 * s.length + 2) depth (skipBlanks s) with
    | .error e => .error e
    | .ok (v, rest) =>
      match skipBlanks rest with
      | [] => .ok v
      | rest => .error (.misread .extraData rest)

/-- How many arrays and objects may be open at once in a model. -/
def nestingLimit : Nat := 975

/-- Reads a whole text. -/
def read (s : List Char) : Except Failure Value := readWithin nestingLimit s

def Problem.text : Problem → String
  | noValue => "Expecting value"
  | noName => "Expecting property name enclosed in double quotes"
  | noColon => "Expecting ':' delimiter"
  | noComma => "Expecting ',' delimiter"
  | extraData => "Extra data"
  | openString => "Unterminated string starting at"
  | control => "Invalid control character at"
  | badEscape => "Invalid \\escape"
  | badUnicodeEscape => "Invalid \\uXXXX escape"
  | byteOrderMark => "Unexpected UTF-8 BOM (decode using utf-8-sig)"

/-- The wording of a problem in a text of which only `rest` was left, with its place. -/
def placed (p : Problem) (s rest : List Char) : String :=
  let offset := s.length - rest.length
  let before := s.take offset
  let line := before.count '\n' + 1
  let column := (before.reverse.takeWhile (· ≠ '\n')).length + 1
  p.text ++ ": line " ++ toString line ++ " column " ++ toString column ++
    " (char " ++ toString offset ++ ")"

/-- The wording of a number that is too long. -/
def tooLongText (digits : Nat) : String :=
  "Exceeds the limit (" ++ toString Numeral.digitLimit ++
    " digits) for integer string conversion: value has " ++ toString digits ++
    " digits; use sys.set_int_max_str_digits() to increase the limit"

end LineTagger.Json
