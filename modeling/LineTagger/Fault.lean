import LineTagger.Value

/-!
Everything that can go wrong, held as causes; the wording of each cause is in one place.
-/

namespace LineTagger

/-- Failures that the operating system reports. -/
inductive SystemError where
  | other
  | permission
  | notFound
  | noProcess
  | interrupted
  | childProcess
  | wouldBlock
  | alreadyExists
  | notDirectory
  | isDirectory
  | brokenPipe
  | aborted
  | reset
  | timeout
  | refused
  | nameResolution
  deriving DecidableEq, Repr, Inhabited

/-- The failure that an error number of the operating system stands for. -/
def SystemError.ofNumber (n : Int) : SystemError :=
  if n = 1 ∨ n = 13 then .permission
  else if n = 2 then .notFound
  else if n = 3 then .noProcess
  else if n = 4 then .interrupted
  else if n = 10 then .childProcess
  else if n = 11 ∨ n = 114 ∨ n = 115 then .wouldBlock
  else if n = 17 then .alreadyExists
  else if n = 20 then .notDirectory
  else if n = 21 then .isDirectory
  else if n = 32 ∨ n = 108 then .brokenPipe
  else if n = 103 then .aborted
  else if n = 104 then .reset
  else if n = 110 then .timeout
  else if n = 111 then .refused
  else .other

/-- Why a configuration is refused. -/
inductive ConfigError where
  | unknownFormat (v : Value)
  | portMissing
  | portNotNumeric (v : Value)
  | portOutOfRange (v : Value)
  | unknownCharset (v : Value)
  | belowOne (setting : String)
  | notPositive (setting : String)
  | unknownLogLevel (v : Value)
  | notNumber (setting : String) (v : Value)
  deriving Repr, Inhabited, BEq

/-- Why the text of a command line argument is refused. -/
inductive ArgumentError where
  | portNotNumeric (v : Value)
  | portOutOfRange (n : Int)
  | notNumber (v : Value)
  | notPositive (v : Value)
  | notInteger (v : Value)
  | belowOne (v : Value)
  deriving Repr, Inhabited, BEq

/-- Why a model cannot be used. -/
inductive ModelError where
  | unreadable (path reason : String)
  | malformed (source reason : String)
  | noEntities (source : String)
  | phrasesNotTexts (source label : String)
  | badName (name : String)
  | noSuchModel (name : String)
  deriving DecidableEq, Repr, Inhabited

/-- A value of a type that an operation does not take. -/
inductive TypeMismatch where
  | noAttribute (type name : String)
  | notComparable (operator left right : String)
  | noDifference (left right : String)
  | unknownArgument (callee name : String)
  | repeatedArgument (callee name : String)
  | suffixOfBytes
  | charsetNotText (callee type : String)
  | attributeNotText (type : String)
  | notSearchable (type : String)
  | patternOnBytes
  | notIterable (type : String)
  | sliceNotWhole
  | notWhole (type : String)
  | notReal (type : String)
  deriving DecidableEq, Repr, Inhabited

/-- A cause of failure. -/
inductive Fault where
  /-- the operating system refused, with the details it gave -/
  | system (kind : SystemError) (details : List Value)
  | overflow (details : List Value)
  | runtime (details : List Value)
  | value (details : List Value)
  | unicode (details : List Value)
  | key (details : List Value)
  /-- bytes from `start` up to `stop`, the first of them given, are not valid -/
  | undecodable (codec : String) (byte : UInt8) (start stop : Nat) (reason : String)
  /-- characters from `start` up to `stop`, the first of them given, have no code -/
  | unencodable (codec : String) (char : Char) (start stop : Nat) (reason : String)
  /-- the codec that refuses every text, by the name under which it was asked for -/
  | undefinedCodec (name : String) (decoding : Bool)
  | unknownCharset (name : String)
  | notTextCharset (name : String) (decoding : Bool)
  | lineTooLong (limit : Value)
  | config (e : ConfigError)
  | bind (host : Value) (port : Value) (reason : String)
  | model (e : ModelError)
  | argument (e : ArgumentError)
  | mismatch (e : TypeMismatch)
  | nestedTooDeep (inArray : Bool)
  deriving Repr, Inhabited, BEq

namespace ConfigError

def message : ConfigError → String
  | unknownFormat v =>
    "Invalid output format: " ++ v.quote ++ " (expected " ++
      "|".intercalate (OutputFormat.all.map OutputFormat.name) ++ ")"
  | portMissing => "A port is required"
  | portNotNumeric v => "Non-numerical port: " ++ v.quote
  | portOutOfRange v =>
    "Invalid port: " ++ v.display ++ ". Must be 1-65535, or 0 for an ephemeral port."
  | unknownCharset v => "Unknown encoding: " ++ v.quote
  | belowOne setting => setting ++ " must be >= 1"
  | notPositive setting => setting ++ " must be > 0"
  | unknownLogLevel v => "Unknown log level: " ++ v.quote
  | notNumber setting v => setting ++ " must be a number, got " ++ v.quote

end ConfigError

namespace ArgumentError

def message : ArgumentError → String
  | portNotNumeric v => "Non-numerical port: " ++ v.quote
  | portOutOfRange n => "Invalid port: " ++ toString n ++ ". Must be 1-65535."
  | notNumber v => "Not a number: " ++ v.quote
  | notPositive v => "Must be > 0: " ++ v.quote
  | notInteger v => "Not an integer: " ++ v.quote
  | belowOne v => "Must be >= 1: " ++ v.quote

end ArgumentError

namespace ModelError

def message : ModelError → String
  | unreadable path reason => "Cannot read classifier " ++ path ++ ": " ++ reason
  | malformed source reason => "Malformed classifier " ++ source ++ ": " ++ reason
  | noEntities source => "Classifier " ++ source ++ " has no 'entities' mapping"
  | phrasesNotTexts source label =>
    "Classifier " ++ source ++ ": entities[" ++ quoted label ++ "] must be a list of strings"
  | badName name => "Invalid classifier resource name: " ++ quoted name
  | noSuchModel name => "No bundled classifier named " ++ quoted name

end ModelError

namespace TypeMismatch

def message : TypeMismatch → String
  | noAttribute type name =>
    quoted type ++ " object has no attribute " ++ quoted name
  | notComparable operator left right =>
    quoted operator ++ " not supported between instances of " ++ quoted left ++ " and " ++
      quoted right
  | noDifference left right =>
    "unsupported operand type(s) for -: " ++ quoted left ++ " and " ++ quoted right
  | unknownArgument callee name =>
    callee ++ "() got an unexpected keyword argument '" ++ name ++ "'"
  | repeatedArgument callee name => callee ++ "() got multiple values for argument '" ++ name ++ "'"
  | suffixOfBytes => "endswith first arg must be bytes or a tuple of bytes, not str"
  | charsetNotText callee type => callee ++ " must be str, not " ++ type
  | attributeNotText type => "attribute name must be string, not " ++ quoted type
  | notSearchable type => "expected string or bytes-like object, got " ++ quoted type
  | patternOnBytes => "cannot use a string pattern on a bytes-like object"
  | notIterable type => quoted type ++ " object is not iterable"
  | sliceNotWhole => "slice indices must be integers or None or have an __index__ method"
  | notWhole type =>
    "int() argument must be a string, a bytes-like object or a real number, not " ++ quoted type
  | notReal type => "float() argument must be a string or a real number, not " ++ quoted type

end TypeMismatch

namespace Fault

/-- The details of a failure: nothing, the only detail, or all of them in parentheses. -/
def detailsText : List Value → String
  | [] => ""
  | [v] => v.display
  | vs => "(" ++ Value.commaJoined (Value.quoteAll vs) ++ ")"

/-- The number and the reason of a failure of the operating system. -/
def numbered (number reason : Value) : String :=
  "[Errno " ++ number.display ++ "] " ++ reason.display

/-- The details of a failure of the operating system: from two details on, its number, its reason
and the names of files. -/
def systemText : List Value → String
  | [number, reason] => numbered number reason
  | [number, reason, .null] => numbered number reason
  | [number, reason, file] => numbered number reason ++ ": " ++ file.quote
  | [number, reason, .null, _] => numbered number reason
  | [number, reason, file, _] => numbered number reason ++ ": " ++ file.quote
  | [number, reason, .null, _, _] => numbered number reason
  | [number, reason, file, _, .null] => numbered number reason ++ ": " ++ file.quote
  | [number, reason, file, _, other] =>
    numbered number reason ++ ": " ++ file.quote ++ " -> " ++ other.quote
  | vs => detailsText vs

/-- A span of positions, the end not included; a single position stands alone. -/
def spanText (one many : String) (start stop : Nat) : String :=
  if stop = start + 1 then one ++ " in position " ++ toString start
  else many ++ " in position " ++ toString start ++ "-" ++ toString (stop - 1)

/-- A name cut to so many bytes of UTF-8; a character that is cut in two is replaced. -/
def cutName : Nat → List Char → List Char
  | _, [] => []
  | n, c :: rest =>
    if c.utf8Size ≤ n then c :: cutName (n - c.utf8Size) rest
    else if n = 0 then [] else ['\uFFFD']

/-- The wording of a cause. An operation that would block may tell how much of it was done, where others
name a file. -/
def message : Fault → String
  | system .wouldBlock [number, reason, done] =>
    if done.quantity?.isSome then numbered number reason else systemText [number, reason, done]
  | system _ details => systemText details
  | overflow details | runtime details | value details | unicode details => detailsText details
  | key [v] => v.quote
  | key details => detailsText details
  | undecodable codec byte start stop reason =>
    quoted codec ++ " codec can't decode " ++
      spanText ("byte 0x" ++ String.ofList (hexDigits 2 byte.toNat)) "bytes" start stop ++
      ": " ++ reason
  | unencodable codec char start stop reason =>
    quoted codec ++ " codec can't encode " ++
      spanText ("character '" ++ String.ofList (codeEscape char.toNat) ++ "'") "characters"
        start stop ++
      ": " ++ reason
  | undefinedCodec name decoding =>
    (if decoding then "decoding" else "encoding") ++
      " with '" ++ name ++ "' codec failed (UnicodeError: undefined encoding)"
  | unknownCharset name => "unknown encoding: " ++ name
  | notTextCharset name decoding =>
    "'" ++ String.ofList (cutName 400 name.toList) ++ "' is not a text encoding; use codecs." ++
      (if decoding then "decode" else "encode") ++ "() to handle arbitrary codecs"
  | lineTooLong limit => "Request line exceeds " ++ limit.display ++ " bytes"
  | config e => e.message
  | bind host port reason =>
    "Cannot listen on " ++ host.display ++ ":" ++ port.display ++
      (if reason.isEmpty then "" else ": " ++ reason)
  | model e => e.message
  | argument e => e.message
  | mismatch e => e.message
  | nestedTooDeep inArray =>
    "maximum recursion depth exceeded while decoding a JSON " ++
      (if inArray then "array" else "object") ++ " from a unicode string"

/-- Whether the operating system refused; a listener that cannot be bound counts. -/
def isSystem : Fault → Bool
  | system .. | bind .. => true
  | _ => false

/-- Whether a deadline passed. -/
def isTimeout : Fault → Bool
  | system .timeout _ => true
  | _ => false

/-- Whether a host name could not be resolved. -/
def isNameResolution : Fault → Bool
  | system .nameResolution _ => true
  | _ => false

/-- Whether the running program itself reached a limit. -/
def isRuntime : Fault → Bool
  | runtime _ | nestedTooDeep _ => true
  | _ => false

def isOverflow : Fault → Bool
  | overflow _ => true
  | _ => false

def isUndecodable : Fault → Bool
  | undecodable .. => true
  | _ => false

def isUnencodable : Fault → Bool
  | unencodable .. => true
  | _ => false

def isLineTooLong : Fault → Bool
  | lineTooLong _ => true
  | _ => false

def isConfig : Fault → Bool
  | config _ => true
  | _ => false

def isModel : Fault → Bool
  | model _ => true
  | _ => false

def isBind : Fault → Bool
  | bind .. => true
  | _ => false

/-- Whether a text could not be read as what it should be. -/
def isValue : Fault → Bool
  | value _ | unicode _ | undecodable .. | unencodable .. | undefinedCodec .. | lineTooLong _
  | config _ => true
  | _ => false

/-- A failure of the operating system that its details tell apart: of two up to five, the first is its
number. -/
def ofDetails (details : List Value) : Fault :=
  if details.length < 2 ∨ 5 < details.length then .system .other details
  else match details.head? with
    | some (.int n) => .system (SystemError.ofNumber n) details
    | some (.bool b) => .system (SystemError.ofNumber (if b then 1 else 0)) details
    | _ => .system .other details

/-- A failure of the operating system with its number and reason. -/
def ofNumber (n : Int) (reason : String) : Fault :=
  .system (SystemError.ofNumber n) [.int n, .text reason]

end Fault

section

variable {ε α β : Type} {x : Except ε α} {y : α → Except ε β}

/-- Two steps in a row succeed just when both do. -/
theorem bind_eq_ok {b : β} : x >>= y = .ok b ↔ ∃ a, x = .ok a ∧ y a = .ok b := by
  constructor
  · intro h
    cases x with
    | error f => cases h
    | ok a => exact ⟨a, rfl, h⟩
  · rintro ⟨a, rfl, h⟩
    exact h

/-- Two steps in a row fail when the first one does, or the second one with what the first one gave. -/
theorem bind_eq_error {f : ε} (h : x >>= y = .error f) :
    x = .error f ∨ ∃ a, x = .ok a ∧ y a = .error f := by
  cases x with
  | error g =>
    cases h
    exact .inl rfl
  | ok a => exact .inr ⟨a, rfl, h⟩

theorem map_eq_ok {f : α → β} {b : β} : x.map f = .ok b ↔ ∃ a, x = .ok a ∧ f a = b := by
  cases x <;> simp [Except.map]

theorem mapError_eq_ok {ε' : Type} {g : ε → ε'} {a : α} : x.mapError g = .ok a ↔ x = .ok a := by
  constructor
  · intro h
    cases x with
    | error => cases h
    | ok => exact congrArg Except.ok (Except.ok.inj h)
  · rintro rfl
    rfl

end

end LineTagger
