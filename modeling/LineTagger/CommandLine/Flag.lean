import LineTagger.Reading

/-!
The flags of the command line: how each is spelled, whether it takes an argument, and which arguments
it accepts.
-/

namespace LineTagger

/-- A flag of the command line. -/
inductive Flag where
  | help
  | port
  | host
  | encoding
  | modelFile
  | modelName
  | outputFormat
  | preserveSpacing
  | readTimeout
  | maxSessions
  | client
  | logLevel
  | version
  deriving DecidableEq, Repr, Inhabited

/-- Whether a flag takes an argument. -/
inductive Arity where
  | none
  | one
  /-- the argument may be left out, and is then this one -/
  | optional (otherwise : String)
  deriving DecidableEq, Repr, Inhabited

/-- Why an argument of a flag is refused. -/
inductive Refusal where
  | expected
  | ignored (text : String)
  | unreadable (f : Fault)
  | noChoice (text : String) (choices : List String)
  | conflict (title : String)
  deriving Repr, Inhabited

namespace Refusal

/-- The wording of a refusal. -/
def message : Refusal → String
  | expected => "expected one argument"
  | ignored text => "ignored explicit argument " ++ quoted text
  | unreadable f => f.message
  | noChoice text choices =>
    "invalid choice: " ++ quoted text ++ " (choose from " ++
      Value.commaJoined (choices.map quoted) ++ ")"
  | conflict title => "not allowed with argument " ++ title

end Refusal

namespace Flag

/-- All flags, in the order in which they are listed. -/
def all : List Flag :=
  [help, port, host, encoding, modelFile, modelName, outputFormat, preserveSpacing, readTimeout,
    maxSessions, client, logLevel, version]

/-- The spellings of a flag whose name may follow one dash or two. -/
def dashed (name : String) : List String := ["-" ++ name, "--" ++ name]

/-- The spellings of a flag. -/
def spellings : Flag → List String
  | help => ["-h", "--help"]
  | port => dashed "port"
  | host => dashed "host"
  | encoding => dashed "encoding"
  | modelFile => dashed "loadClassifier"
  | modelName => dashed "loadJarClassifier"
  | outputFormat => dashed "outputFormat"
  | preserveSpacing => dashed "preserveSpacing"
  | readTimeout => dashed "readTimeout"
  | maxSessions => dashed "maxSessions"
  | client => dashed "client"
  | logLevel => dashed "logLevel"
  | version => ["--version", "-version"]

/-- A flag as messages show it: all its spellings. -/
def title (f : Flag) : String := "/".intercalate f.spellings

/-- All spellings of all flags, in order. -/
def table : List (String × Flag) := all.flatMap fun f => f.spellings.map fun s => (s, f)

/-- The flag that a text spells. -/
def ofSpelling? (s : String) : Option Flag := table.lookup s

def arity : Flag → Arity
  | help | version => .none
  | client => .optional "localhost"
  | _ => .one

/-- The flag that cannot be given together with another one. -/
def rival? : Flag → Option Flag
  | modelFile => some modelName
  | modelName => some modelFile
  | _ => none

/-- The levels of the log that can be asked for. -/
def logLevels : List String := ["DEBUG", "INFO", "WARNING", "ERROR"]

/-- One of several texts. -/
def choose (choices : List String) (s : String) : Except Refusal Value :=
  if choices.contains s then .ok (.text s) else .error (.noChoice s choices)

/-- The value of an argument of a flag. -/
def read (f : Flag) (s : String) : Except Refusal Value :=
  match f with
  | port => ((Reading.portArgument (.text s)).map Value.int).mapError .unreadable
  | outputFormat => choose (OutputFormat.all.map OutputFormat.name) s
  | preserveSpacing => .ok (.bool (Reading.flagText s))
  | readTimeout => ((Reading.positiveArgument (.text s)).map Value.double).mapError .unreadable
  | maxSessions => ((Reading.countArgument (.text s)).map Value.int).mapError .unreadable
  | logLevel => choose logLevels s
  | _ => .ok (.text s)

end Flag

end LineTagger
