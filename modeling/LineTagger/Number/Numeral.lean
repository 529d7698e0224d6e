import LineTagger.Number.Double
import LineTagger.Text.Blank
import LineTagger.Text.Digit

/-!
Numbers as an operator may type them: digits of any script, white space around them, and single low
lines between digits.
-/

namespace LineTagger.Numeral

/-- The ASCII form of a character of a numeral; `?` stands for a character that has none. -/
def plain (c : Char) : Char :=
  if c.toNat < 127 then c
  else if isBlank c then ' '
  else match digitValue? c with
    | some d => Nat.digitChar d
    | none => '?'

/-- White space of ASCII proper; the information separators do not count. -/
def isPlainBlank (c : Char) : Bool := c = ' ' || (9 ≤ c.toNat && c.toNat ≤ 13)

/-- A numeral in ASCII, without the white space around it. -/
def core (s : List Char) : List Char :=
  ((((s.map plain).dropWhile isPlainBlank).reverse).dropWhile isPlainBlank).reverse

/-- Splits off a sign; true stands for minus. -/
def sign : List Char → Bool × List Char
  | '-' :: rest => (true, rest)
  | '+' :: rest => (false, rest)
  | s => (false, s)

/-- Digits, with the low lines between two digits dropped. -/
def ungroup : List Char → Option (List Char)
  | [] => none
  | [c] => if c.isDigit then some [c] else none
  | c :: '_' :: rest => if c.isDigit then (ungroup rest).map (c :: ·) else none
  | c :: rest => if c.isDigit then (ungroup rest).map (c :: ·) else none

/-- The value of decimal digits. -/
def value (ds : List Char) : Nat := ds.foldl (fun n d => 10 * n + (d.toNat - 48)) 0

/-- The most digits that a whole number may have. -/
def digitLimit : Nat := 4300

/-- Reads a whole number. -/
def readInt (s : List Char) : Option Int :=
  let (negative, rest) := sign (core s)
  match ungroup rest with
  | none => none
  | some ds =>
    if ds.length > digitLimit then none
    else some (if negative then -(value ds : Int) else value ds)

/-- Drops the low lines of a decimal fraction, each of which must stand between two digits;
`before` is the character in front. -/
def ungroupFraction (before : Char) : List Char → Option (List Char)
  | [] => if before = '_' then none else some []
  | c :: rest =>
    if c = '_' then
      if before.isDigit then ungroupFraction c rest else none
    else if before = '_' && !c.isDigit then none
    else (ungroupFraction c rest).map (c :: ·)

/-- Reads the exponent of a decimal fraction, which must be the rest of it. -/
def readExponent : List Char → Option Int
  | [] => some 0
  | c :: rest =>
    if c = 'e' ∨ c = 'E' then
      let (negative, ds) := sign rest
      if ds.isEmpty || !ds.all Char.isDigit then none
      else some (if negative then -(value ds : Int) else value ds)
    else none

/-- Reads a decimal fraction in ASCII: digits around an optional point, and an optional exponent. -/
def readDecimal (negative : Bool) (s : List Char) : Option Double :=
  let whole := s.takeWhile Char.isDigit
  let rest := s.dropWhile Char.isDigit
  let (part, rest) := match rest with
    | '.' :: rest => (rest.takeWhile Char.isDigit, rest.dropWhile Char.isDigit)
    | rest => ([], rest)
  if whole.isEmpty && part.isEmpty then none
  else (readExponent rest).map fun e =>
    Double.ofDecimal negative (value (whole ++ part)) (e - part.length)

/-- Reads a number with a fraction, an infinity, or what is not a number. -/
def readDouble (s : List Char) : Option Double :=
  match ungroupFraction ' ' (core s) with
  | none => none
  | some s =>
    let (negative, rest) := sign s
    let name := rest.map Char.toLower
    if name = "inf".toList ∨ name = "infinity".toList then some (.infinity negative)
    else if name = "nan".toList then some .nan
    else readDecimal negative rest

end LineTagger.Numeral
