import LineTagger.Charset
import LineTagger.Reading

/-!
Settings as they are given, from named fields, or from the environment with overrides: each may be a
value of any type. `validate` says whether they can be used. What uses a setting keeps it as it was
given, and fails where its type does not do.
-/

namespace LineTagger

/-- The settings of a server. Only the style is certain to be one of those there are. -/
structure Settings where
  port : Value := .int 0
  host : Value := .text "0.0.0.0"
  backlog : Value := .int 128
  bufferSize : Value := .int 4096
  acceptPollInterval : Value := .double (Double.ofInt 1)
  charset : Value := .text "utf-8"
  maxLineBytes : Value := .int (1024 * 1024)
  outputFormat : OutputFormat := .slashTags
  preserveSpacing : Value := .bool true
  readTimeout : Value := .null
  maxSessions : Value := .null
  logLevel : Value := .text "INFO"
  deriving Repr, Inhabited

namespace Settings

/-- The settings as named values. -/
def fields (s : Settings) : List (String × Value) := [
  ("port", s.port), ("host", s.host), ("backlog", s.backlog), ("buffer_size", s.bufferSize),
  ("accept_poll_interval", s.acceptPollInterval), ("charset", s.charset),
  ("max_line_bytes", s.maxLineBytes), ("output_format", .format s.outputFormat),
  ("preserve_spacing", s.preserveSpacing), ("read_timeout", s.readTimeout),
  ("max_sessions", s.maxSessions), ("log_level", s.logLevel)]

/-- The names that settings have. -/
def names : List String := (fields {}).map (·.1)

/-- The settings with one of them replaced; the style is set apart. -/
def assign (s : Settings) (name : String) (v : Value) : Settings :=
  match name with
  | "port" => { s with port := v }
  | "host" => { s with host := v }
  | "backlog" => { s with backlog := v }
  | "buffer_size" => { s with bufferSize := v }
  | "accept_poll_interval" => { s with acceptPollInterval := v }
  | "charset" => { s with charset := v }
  | "max_line_bytes" => { s with maxLineBytes := v }
  | "preserve_spacing" => { s with preserveSpacing := v }
  | "read_timeout" => { s with readTimeout := v }
  | "max_sessions" => { s with maxSessions := v }
  | "log_level" => { s with logLevel := v }
  | _ => s

/-- Settings from named values; what is not named has its default. -/
def ofFields (kvs : List (String × Value)) : Except Fault Settings := do
  Reading.checkNames "ServerConfig.__init__" ["self"] names kvs
  let outputFormat ← Reading.format ((kvs.lookup "output_format").getD .null)
  return kvs.foldl (fun s (name, v) => s.assign name v) { outputFormat }

/-- A variable of the environment: the setting that it sets, and how what it holds is read. -/
structure Variable where
  name : String
  setting : String
  read : Value → Except Fault Value

/-- A variable that is taken as it is. -/
def textVariable (name setting : String) : Variable := ⟨name, setting, .ok⟩

/-- A variable that holds a number. -/
def numberVariable (name setting : String) (read : Value → Except Fault Value) : Variable :=
  ⟨name, setting, fun v => Reading.orElse (read v) (.config (.notNumber name v))⟩

/-- The variables in the order in which they are read. -/
def environmentVariables : List Variable := [
  textVariable "TAGGER_HOST" "host",
  ⟨"TAGGER_PORT", "port", fun v => (Reading.port v).map .int⟩,
  textVariable "TAGGER_ENCODING" "charset",
  ⟨"TAGGER_OUTPUT_FORMAT", "output_format", fun v => (Reading.format v).map .format⟩,
  ⟨"TAGGER_PRESERVE_SPACING", "preserve_spacing", fun v => (Reading.flag v).map .bool⟩,
  numberVariable "TAGGER_READ_TIMEOUT" "read_timeout" fun v => (Reading.real v).map .double,
  numberVariable "TAGGER_MAX_SESSIONS" "max_sessions" fun v => (Reading.whole v).map .int,
  textVariable "TAGGER_LOG_LEVEL" "log_level"]

/-- The environment of a process. -/
abbrev Environment := List (String × Value)

/-- The settings that variables set; an empty variable sets nothing. -/
def readVariables (env : Environment) : List Variable → Except Fault (List (String × Value))
  | [] => .ok []
  | x :: rest =>
    match env.lookup x.name with
    | none => readVariables env rest
    | some held =>
      if held.isTrue then do
        let v ← x.read held
        let others ← readVariables env rest
        return (x.setting, v) :: others
      else readVariables env rest

/-- Named values with others over them; nothing overrides nothing. -/
def override (kvs others : List (String × Value)) : List (String × Value) :=
  others.foldl (fun kvs (name, v) => match v with
    | .null => kvs
    | v => Value.put kvs name v) kvs

/-- Settings from the environment, with overrides. -/
def fromEnvironment (env : Environment) (overrides : List (String × Value)) :
    Except Fault Settings := do
  Reading.checkOwn "ServerConfig.from_env" ["cls", "environ"] overrides
  let kvs ← readVariables env environmentVariables
  ofFields (override kvs overrides)

/-- The names of the levels of a log. -/
def levelNames : List String := ["DEBUG", "INFO", "WARNING", "ERROR", "CRITICAL"]

/-- What the name of a level stands for, in any case; a name that is none stands for `INFO`. -/
def levelValue (name : String) : Value :=
  match String.ofList (upperAscii name.toList) with
  | "DEBUG" => .int 10
  | "WARNING" | "WARN" => .int 30
  | "ERROR" => .int 40
  | "CRITICAL" | "FATAL" => .int 50
  | "NOTSET" => .int 0
  | "BASIC_FORMAT" => .text "%(levelname)s:%(name)s:%(message)s"
  | _ => .int 20

/-- What the level of these settings stands for. -/
def logLevelValue (s : Settings) : Except Fault Value :=
  match s.logLevel with
  | .bytes _ => .error (.mismatch (.attributeNotText s.logLevel.typeName))
  | v =>
    match v.text? with
    | some name => .ok (levelValue name)
    | none => .error (.mismatch (.noAttribute v.typeName "upper"))

/-- Whether a value is a whole number in the range of ports; zero asks for any free port. -/
def isPort : Value → Bool
  | .bool _ => true
  | .int n => 0 ≤ n && n < 65536
  | _ => false

def checkPort (v : Value) : Except Fault Unit :=
  if isPort v then .ok () else .error (.config (.portOutOfRange v))

def checkCharset (v : Value) : Except Fault Unit := do
  if ← Charset.isKnown (← Charset.nameOf "lookup() argument" v) then return ()
  else throw (.config (.unknownCharset v))

/-- A setting that must not be below one. -/
def checkCount (name : String) (v : Value) : Except Fault Unit :=
  match v.quantity? with
  | none => .error (.mismatch (.notComparable "<" v.typeName "int"))
  | some q => if q.ltInt 1 then .error (.config (.belowOne name)) else .ok ()

/-- A setting that must not be zero or below. -/
def checkPositive (name : String) (v : Value) : Except Fault Unit :=
  match v.quantity? with
  | none => .error (.mismatch (.notComparable "<=" v.typeName "int"))
  | some q => if q.leInt 0 then .error (.config (.notPositive name)) else .ok ()

/-- A check of a setting that may be left out. -/
def unlessNull (v : Value) (check : Except Fault Unit) : Except Fault Unit :=
  match v with
  | .null => .ok ()
  | _ => check

def checkLogLevel (v : Value) : Except Fault Unit :=
  match v with
  | .bytes _ => .error (.config (.unknownLogLevel v))
  | v =>
    match v.text? with
    | none => .error (.mismatch (.noAttribute v.typeName "upper"))
    | some name =>
      if levelNames.contains (String.ofList (upperAscii name.toList)) then .ok ()
      else .error (.config (.unknownLogLevel v))

/-- Whether settings can be used; of several faults the first in this order is told. -/
def validate (s : Settings) : Except Fault Unit := do
  checkPort s.port
  checkCharset s.charset
  checkCount "backlog" s.backlog
  checkCount "buffer_size" s.bufferSize
  checkCount "max_line_bytes" s.maxLineBytes
  checkPositive "accept_poll_interval" s.acceptPollInterval
  unlessNull s.readTimeout (checkPositive "read_timeout" s.readTimeout)
  unlessNull s.maxSessions (checkCount "max_sessions" s.maxSessions)
  checkLogLevel s.logLevel

end Settings

end LineTagger
