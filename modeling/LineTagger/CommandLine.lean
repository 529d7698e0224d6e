import LineTagger.CommandLine.Usage
import LineTagger.Settings

/-!
The command line: which texts are flags, what they take as their arguments, and what settings come of
them. A flag may be abbreviated as long as no other one begins so.
-/

namespace LineTagger

/-- What was given on a command line; what was not given is null. -/
structure Arguments where
  port : Value := .null
  host : Value := .null
  encoding : Value := .null
  modelFile : Value := .null
  modelName : Value := .null
  outputFormat : Value := .null
  preserveSpacing : Value := .null
  readTimeout : Value := .null
  maxSessions : Value := .null
  client : Value := .null
  logLevel : Value := .null
  deriving Repr, Inhabited

/-- A flag as it was spelled, perhaps with an argument attached to it. -/
structure Spelled where
  flag : Flag
  spelling : String
  attached : Option (List Char)
  deriving Repr, Inhabited

/-- What a text on the command line is. -/
inductive Part where
  | plain
  /-- two dashes by themselves, behind which there are no flags -/
  | divider
  | flag (s : Spelled)
  /-- it looks like a flag, but there is no such flag -/
  | unknown
  deriving Repr, Inhabited

/-- Why reading a command line stops: the program only tells something of itself, or there is an
error. -/
inductive Halt where
  | help
  | version
  | error (e : UsageError)
  deriving Repr, Inhabited

namespace Arguments

/-- The arguments with the value of one flag. -/
def assign (a : Arguments) (f : Flag) (v : Value) : Arguments :=
  match f with
  | .port => { a with port := v }
  | .host => { a with host := v }
  | .encoding => { a with encoding := v }
  | .modelFile => { a with modelFile := v }
  | .modelName => { a with modelName := v }
  | .outputFormat => { a with outputFormat := v }
  | .preserveSpacing => { a with preserveSpacing := v }
  | .readTimeout => { a with readTimeout := v }
  | .maxSessions => { a with maxSessions := v }
  | .client => { a with client := v }
  | .logLevel => { a with logLevel := v }
  | .help | .version => a

/-- The settings that arguments set. -/
def overrides (a : Arguments) : List (String × Value) := [
  ("port", a.port), ("host", a.host), ("charset", a.encoding), ("output_format", a.outputFormat),
  ("preserve_spacing", a.preserveSpacing), ("read_timeout", a.readTimeout),
  ("max_sessions", a.maxSessions), ("log_level", a.logLevel)]

/-- The settings of arguments and the environment, if they can be used. -/
def settings (a : Arguments) (env : Settings.Environment) : Except Fault Settings := do
  let s ← Settings.fromEnvironment env a.overrides
  s.validate
  return s

end Arguments

namespace CommandLine

/-- Where reading a command line stands. -/
structure Progress where
  arguments : Arguments := {}
  /-- the flags that were given -/
  seen : List Flag := []
  /-- the texts that belong to no flag -/
  extras : List String := []
  deriving Repr, Inhabited

/-- A text divided at its first equals sign, if there is one. -/
def divide (s : List Char) : List Char × Option (List Char) :=
  match s.dropWhile (· ≠ '=') with
  | [] => (s, none)
  | _ :: rest => (s.takeWhile (· ≠ '='), some rest)

/-- The flags that a text may abbreviate. Behind two dashes an argument may be attached with an equals
sign; behind one dash it may follow a flag of one letter. -/
def candidates (s : String) : List Spelled :=
  match s.toList with
  | '-' :: '-' :: _ =>
    let (start, attached) := divide s.toList
    (Flag.table.filter fun (spelling, _) => start.isPrefixOf spelling.toList).map
      fun (spelling, flag) => { flag, spelling, attached }
  | '-' :: c :: rest =>
    Flag.table.filterMap fun (spelling, flag) =>
      if spelling.toList = ['-', c] then some { flag, spelling, attached := some rest }
      else if s.toList.isPrefixOf spelling.toList then some { flag, spelling, attached := none }
      else none
  | _ => []

/-- Whether a text is a minus sign with digits, perhaps with a point before the last of them. A line
feed may end it. -/
def isNegativeNumber (s : List Char) : Bool :=
  match s with
  | '-' :: rest =>
    let rest := if rest.getLast? = some '\n' then rest.dropLast else rest
    let isDigit (c : Char) := (digitValue? c).isSome
    match rest.dropWhile isDigit with
    | [] => !rest.isEmpty
    | '.' :: decimals => !decimals.isEmpty && decimals.all isDigit
    | _ => false
  | _ => false

/-- What a text is that spells no flag in full. -/
def guess (s : String) : Except UsageError Part :=
  match candidates s with
  | [c] => .ok (.flag c)
  | [] => .ok (if isNegativeNumber s.toList || s.toList.contains ' ' then .plain else .unknown)
  | cs => .error (.ambiguous s (cs.map Spelled.spelling))

/-- What a text is. -/
def part (s : String) : Except UsageError Part :=
  match s.toList with
  | '-' :: _ :: _ =>
    match Flag.ofSpelling? s with
    | some flag => .ok (.flag { flag, spelling := s, attached := none })
    | none =>
      let (start, attached) := divide s.toList
      match attached, Flag.ofSpelling? (String.ofList start) with
      | some text, some flag =>
        .ok (.flag { flag, spelling := String.ofList start, attached := some text })
      | _, _ => guess s
  | _ => .ok .plain

/-- What each text is. -/
def parts : List String → Except UsageError (List (String × Part))
  | [] => .ok []
  | s :: rest =>
    if s = "--" then .ok ((s, .divider) :: rest.map fun t => (t, .plain))
    else do
      let p ← part s
      return (s, p) :: (← parts rest)

/-- The value that the texts given to a flag make. -/
def valueOf (f : Flag) (texts : List String) : Except Refusal Value :=
  match f.arity, texts.erase "--" with
  | .optional otherwise, [] => f.read otherwise
  | _, [s] => f.read s
  | _, _ => .ok (.list [])

/-- Takes a flag with the texts given to it. -/
def take (p : Progress) (f : Flag) (texts : List String) : Except Halt Progress :=
  match f with
  | .help => .error .help
  | .version => .error .version
  | f =>
    match valueOf f texts with
    | .error r => .error (.error (.refused f r))
    | .ok v =>
      match f.rival? with
      | some g =>
        if p.seen.contains g then .error (.error (.refused f (.conflict g.title)))
        else .ok { p with arguments := p.arguments.assign f v, seen := f :: p.seen }
      | none => .ok { p with arguments := p.arguments.assign f v, seen := f :: p.seen }

/-- The flags in a text with an argument attached, each with what is given to it. Behind one dash,
flags that take no argument may follow one another, and the last one is by itself if nothing is
left. -/
def unfold (f : Flag) (isLong : Bool) :
    List Char → Except UsageError (List (Flag × List String) × Option Flag)
  | [] =>
    if f.arity = .none then .error (.refused f (.ignored "")) else .ok ([(f, [""])], none)
  | c :: rest =>
    if f.arity ≠ .none then .ok ([(f, [String.ofList (c :: rest)])], none)
    else if isLong then .error (.refused f (.ignored (String.ofList (c :: rest))))
    else match Flag.ofSpelling? (String.ofList ['-', c]) with
      | none => .error (.refused f (.ignored (String.ofList (c :: rest))))
      | some g =>
        if rest.isEmpty then .ok ([(f, [])], some g)
        else (unfold g false rest).map fun (calls, last) => ((f, []) :: calls, last)

/-- Takes the flags in a text with an argument attached. The last one may be left, which then takes
its argument from the texts that follow. -/
def takeAttached (p : Progress) (s : Spelled) (text : List Char) :
    Except Halt (Progress × Option Flag) :=
  match unfold s.flag (s.spelling.toList[1]? = some '-') text with
  | .error e => .error (.error e)
  | .ok (calls, last) => do
    let p ← calls.foldlM (fun p (f, texts) => take p f texts) p
    return (p, last)

/-- Takes a flag that no argument follows. -/
def takeAlone (p : Progress) (f : Flag) : Except Halt Progress :=
  if f.arity = .one then .error (.error (.refused f .expected)) else take p f []

/-- Takes a flag with what is attached to it, and tells whether it may take its argument from the texts
that follow. -/
def takeSpelled (p : Progress) (s : Spelled) : Except Halt (Progress × Option Flag) :=
  match s.attached with
  | some text => takeAttached p s text
  | none => .ok (p, some s.flag)

/-- Reads what the texts of a command line are. -/
def interpret (p : Progress) : List (String × Part) → Except Halt Progress
  | [] => .ok p
  | (_, .flag s) :: (t, .plain) :: rest => do
    let (p, waiting) ← takeSpelled p s
    match waiting with
    | none => interpret p ((t, .plain) :: rest)
    | some f =>
      if f.arity = .none then interpret (← take p f []) ((t, .plain) :: rest)
      else interpret (← take p f [t]) rest
  | (_, .flag s) :: rest => do
    let (p, waiting) ← takeSpelled p s
    match waiting with
    | none => interpret p rest
    | some f => interpret (← takeAlone p f) rest
  | (s, _) :: rest => interpret { p with extras := p.extras ++ [s] } rest

/-- Reads a command line. A port must be given, and every text must belong to a flag. -/
def read (texts : List String) : Except Halt Arguments :=
  match parts texts with
  | .error e => .error (.error e)
  | .ok ps => do
    let p ← interpret {} ps
    if !p.seen.contains .port then throw (.error (.missing .port))
    if !p.extras.isEmpty then throw (.error (.unrecognized p.extras))
    return p.arguments

end CommandLine

end LineTagger
