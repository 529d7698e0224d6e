import LineTagger.Fault
import LineTagger.Number.Numeral
import LineTagger.Text.Case

/-!
Values read as what a setting needs: a style, a flag, a whole number, a number of seconds.
-/

namespace LineTagger.Reading

/-- A style by its name; nothing and the empty name choose the first style. -/
def format : Value → Except Fault OutputFormat
  | .null => .ok .slashTags
  | .format f => .ok f
  | v =>
    match v with
    | .text s =>
      if s.isEmpty then .ok .slashTags
      else match OutputFormat.ofName? s with
        | some f => .ok f
        | none => .error (.config (.unknownFormat v))
    | _ => .error (.config (.unknownFormat v))

/-- The word `true` in any case, white space around it aside, is true, and any other text is false. -/
def flagText (s : String) : Bool := lower (strip s.toList) = "true".toList

/-- A flag; nothing at all is false. -/
def flag : Value → Except Fault Bool
  | .null => .ok false
  | .text s => .ok (flagText s)
  | .format f => .ok (flagText f.name)
  | .bytes _ => .ok false
  | v => .error (.mismatch (.noAttribute v.typeName "strip"))

/-- Bytes as characters, those beyond ASCII as a character of no numeral. -/
def bytesText (bs : List UInt8) : List Char :=
  bs.map fun b => if b.toNat < 128 then Char.ofNat b.toNat else '?'

/-- What a numeral that cannot be read fails with. -/
def badNumeral {α : Type} : Except Fault α := .error (.value [])

/-- A whole number: a numeral, or a number with its fraction cut off. -/
def whole : Value → Except Fault Int
  | .bool b => .ok (if b then 1 else 0)
  | .int n => .ok n
  | .double .nan => badNumeral
  | .double x =>
    match x.truncate? with
    | some n => .ok n
    | none => .error (.overflow [.text "cannot convert float infinity to integer"])
  | .text s => (Numeral.readInt s.toList).elim badNumeral .ok
  | .format f => (Numeral.readInt f.name.toList).elim badNumeral .ok
  | .bytes bs => (Numeral.readInt (bytesText bs)).elim badNumeral .ok
  | v => .error (.mismatch (.notWhole v.typeName))

/-- A number that may have a fraction. -/
def real : Value → Except Fault Double
  | .bool b => .ok (Double.ofInt (if b then 1 else 0))
  | .int n =>
    match Double.ofInt n with
    | .infinity _ => .error (.overflow [.text "int too large to convert to float"])
    | x => .ok x
  | .double x => .ok x
  | .text s => (Numeral.readDouble s.toList).elim badNumeral .ok
  | .format f => (Numeral.readDouble f.name.toList).elim badNumeral .ok
  | .bytes bs => (Numeral.readDouble (bytesText bs)).elim badNumeral .ok
  | v => .error (.mismatch (.notReal v.typeName))

/-- Whether a value is a text of white space only. -/
def isBlankText : Value → Bool
  | .text s => (strip s.toList).isEmpty
  | _ => false

def isMismatch : Fault → Bool
  | .mismatch _ => true
  | _ => false

/-- A port, in any range. -/
def port (v : Value) : Except Fault Int :=
  match v with
  | .null => .error (.config .portMissing)
  | v =>
    if isBlankText v then .error (.config .portMissing)
    else match whole v with
      | .ok n => .ok n
      | .error f =>
        if f.isValue || isMismatch f then .error (.config (.portNotNumeric v)) else .error f

/-- What a reading gives, a value that cannot be read failing with a fault of its own. -/
def orElse {α : Type} (r : Except Fault α) (f : Fault) : Except Fault α :=
  match r with
  | .ok a => .ok a
  | .error g => .error (if g.isValue then f else g)

/-- A callee does not take by name what it is given anyway. -/
def checkOwn (callee : String) (own : List String) (kvs : List (String × Value)) :
    Except Fault Unit :=
  match kvs.find? fun kv => own.contains kv.1 with
  | some (name, _) => .error (.mismatch (.repeatedArgument callee name))
  | none => .ok ()

/-- A callee takes the names it knows, and no others; the first wrong one is told. -/
def checkNames (callee : String) (own names : List String) : List (String × Value) →
    Except Fault Unit
  | [] => .ok ()
  | (name, _) :: rest =>
    if own.contains name then .error (.mismatch (.repeatedArgument callee name))
    else if names.contains name then checkNames callee own names rest
    else .error (.mismatch (.unknownArgument callee name))

/-- A text in which tokens are to be found. -/
def searched : Value → Except Fault (List Char)
  | .text s => .ok s.toList
  | .format f => .ok f.name.toList
  | .bytes _ => .error (.mismatch .patternOnBytes)
  | v => .error (.mismatch (.notSearchable v.typeName))

/-- The phrases that a value holds: the items of a list, the characters of a text, the keys of a map.
Bytes hold numbers, which are no phrases. -/
def phrases : Value → Except Fault (List (List Char))
  | .list vs => vs.mapM searched
  | .text s => .ok (s.toList.map fun c => [c])
  | .format f => .ok (f.name.toList.map fun c => [c])
  | .map kvs => .ok (kvs.map fun kv => kv.1.toList)
  | .bytes [] => .ok []
  | .bytes _ => .error (.mismatch (.notSearchable "int"))
  | v => .error (.mismatch (.notIterable v.typeName))

/-- A port on the command line. -/
def portArgument (v : Value) : Except Fault Int := do
  let n ← orElse (whole v) (.argument (.portNotNumeric v))
  if 0 < n ∧ n < 65536 then return n else throw (.argument (.portOutOfRange n))

/-- A positive number on the command line. What is not a number is not refused. -/
def positiveArgument (v : Value) : Except Fault Double := do
  let x ← orElse (real v) (.argument (.notNumber v))
  if x.leInt 0 then throw (.argument (.notPositive v)) else return x

/-- A count of at least one on the command line. -/
def countArgument (v : Value) : Except Fault Int := do
  let n ← orElse (whole v) (.argument (.notInteger v))
  if n < 1 then throw (.argument (.belowOne v)) else return n

end LineTagger.Reading
