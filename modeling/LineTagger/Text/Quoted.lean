import LineTagger.Text.Printable

/-!
Quoted texts and bytes for messages: single quotes, or double quotes where that saves escapes, with
the usual letters for tab and line ends and hexadecimal escapes for what cannot be shown.
-/

namespace LineTagger

/-- The last `width` hexadecimal digits of a number, in small letters. -/
def hexDigits : Nat → Nat → List Char
  | 0, _ => []
  | width + 1, n => hexDigits width (n / 16) ++ [Nat.digitChar (n % 16)]

/-- The shortest escape that holds a code point. -/
def codeEscape (n : Nat) : List Char :=
  if n < 0x100 then ['\\', 'x'] ++ hexDigits 2 n
  else if n < 0x10000 then ['\\', 'u'] ++ hexDigits 4 n
  else ['\\', 'U'] ++ hexDigits 8 n

/-- Single quotes, unless the text holds single quotes and no double ones. -/
def quoteMark (hasSingle hasDouble : Bool) : Char := if hasSingle && !hasDouble then '"' else '\''

/-- What stands for a character between two quotes. -/
def quotedChar (shown : Char → Bool) (mark c : Char) : List Char :=
  if c = mark ∨ c = '\\' then ['\\', c]
  else if c = '\t' then ['\\', 't']
  else if c = '\n' then ['\\', 'n']
  else if c = '\r' then ['\\', 'r']
  else if shown c then [c]
  else codeEscape c.toNat

/-- A text in quotes. -/
def quotedText (s : List Char) : List Char :=
  let mark := quoteMark (s.contains '\'') (s.contains '"')
  mark :: s.flatMap (quotedChar isPrintable mark) ++ [mark]

/-- A string in quotes. -/
def quoted (s : String) : String := String.ofList (quotedText s.toList)

/-- Bytes in quotes after the letter `b`; only ASCII is shown as it is. -/
def quotedBytes (bs : List UInt8) : String :=
  let s := bs.map fun b => Char.ofNat b.toNat
  let mark := quoteMark (s.contains '\'') (s.contains '"')
  let shown := fun c : Char => 0x20 ≤ c.toNat && c.toNat < 0x7F
  String.ofList ('b' :: mark :: s.flatMap (quotedChar shown mark) ++ [mark])

end LineTagger
