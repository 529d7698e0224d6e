import LineTagger.Connection
import LineTagger.Gazetteer
import LineTagger.Settings

/-!
A session serves one connection: reads a line, has it classified, writes the answer, and closes.
Whatever goes wrong is told in the log only; the client sees no more than the closed connection.
-/

namespace LineTagger

/-- What annotates a line in a style, with or without its spacing; what it answers should be a text. -/
structure Classifier where
  /-- the kind of classifier, by which a run tells who was called -/
  kind : String
  annotate : List Char → Value → Value → Except Fault Value

/-- A gazetteer as a classifier. -/
def Gazetteer.classifier (g : Gazetteer) : Classifier where
  kind := "gazetteer"
  annotate := fun text format preserve => do
    return .text (String.ofList (g.classify text (← Reading.format format) preserve.isTrue))

/-- What a session needs besides its connection. -/
structure Service where
  classifier : Classifier
  outputFormat : Value := .format .slashTags
  preserveSpacing : Value := .bool true
  channel : String
  now : Double

/-- A session that waits at a gate. -/
structure Pending (σ : Type) where
  connection : Connection σ
  service : Service
  buffer : LineBuffer

/-- How a session stopped: it ended or let a fault escape, or it waits at a gate. -/
inductive SessionStop (σ : Type) where
  | ended (r : Except Fault Outcome)
  | parked (gate : String) (p : Pending σ)

/-- A stretch of a session. -/
structure SessionRun (σ : Type) where
  events : List Event
  stop : SessionStop σ

namespace SessionRun

variable {σ : Type}

/-- What follows other events. -/
def after (es : List Event) (r : SessionRun σ) : SessionRun σ := { r with events := es ++ r.events }

def ofRun (r : Run Outcome) : SessionRun σ := ⟨r.events, .ended r.result⟩

end SessionRun

namespace Session

/-- The channel of the log that a session uses of its own. -/
def ownChannel : String := "tagserver.session"

variable {σ : Type}

/-- Tells why no line was read. Faults that are neither of the text nor of the system escape. -/
def readFailed (c : Connection σ) (s : Service) (f : Fault) : Run Outcome := do
  if f.isUndecodable then
    Run.log s.channel .error
      (c.tag ++ "Couldn't decode input as " ++ c.charset.display ++ ": " ++ f.message)
    return .readError
  else if f.isLineTooLong then
    Run.log s.channel .error (c.tag ++ "Couldn't read input: " ++ f.message)
    return .readError
  else if f.isTimeout then
    Run.log s.channel .warning (c.tag ++ "Timed out waiting for input")
    return .readError
  else if f.isSystem then
    Run.logFault s.channel .error (c.tag ++ "Couldn't read input: " ++ f.message) f
    return .readError
  else Run.fail f

/-- Tells why the answer was not written. -/
def writeFailed (c : Connection σ) (s : Service) (f : Fault) : Run Outcome := do
  if f.isUnencodable then
    Run.log s.channel .error
      (c.tag ++ "Couldn't encode output as " ++ c.charset.display ++ ": " ++ f.message)
    return .writeError
  else if f.isSystem then
    Run.log s.channel .error (c.tag ++ "Couldn't send output: " ++ f.message)
    return .writeError
  else Run.fail f

/-- Writes the answer. -/
def respond (c : Connection σ) (s : Service) (v : Value) : Run Outcome := do
  Run.log s.channel .debug (c.tag ++ "Sending: \"" ++ v.display ++ "\"")
  match ← (c.sendLine v).attempt with
  | .ok () => return .responded
  | .error f => writeFailed c s f

/-- Has a line classified and writes the answer. -/
def serveLine (c : Connection σ) (s : Service) (line : List Char) : Run Outcome := do
  Run.log s.channel .debug (c.tag ++ "Receiving: \"" ++ String.ofList line ++ "\"")
  Run.emit (.stage c.socket.id .classifying)
  Run.emit (.classify s.classifier.kind line s.outputFormat s.preserveSpacing)
  match s.classifier.annotate line s.outputFormat s.preserveSpacing with
  | .error f =>
    Run.logFault s.channel .error (c.tag ++ "Classifier failed: " ++ f.message) f
    return .classifyError
  | .ok v => respond c s v

/-- What follows reading: nothing for no line and an empty one, else the answer. -/
def serve (c : Connection σ) (s : Service) : Except Fault (Option (List Char)) → Run Outcome
  | .error f => readFailed c s f
  | .ok none | .ok (some []) => do
    Run.log s.channel .debug (c.tag ++ "No input, closing")
    return .noInput
  | .ok (some line) => serveLine c s line

/-- Goes on after a stretch of reading. -/
def afterReading (c : Connection σ) (s : Service) (r : LineReading σ (List Char)) : SessionRun σ :=
  let c := c.afterReading r
  match r.stop with
  | .parked gate buffer => ⟨r.events ++ [.parked gate], .parked gate ⟨c, s, buffer⟩⟩
  | .done line => (SessionRun.ofRun (c.closing s.now (serve c s line))).after r.events

/-- What the log tells of a new session. -/
def createdEvent (c : Connection σ) (s : Service) : Event :=
  .log s.channel .debug (c.tag ++ "Created new session for " ++ c.address.pair) none

/-- Serves a connection, as far as its peer lets it. -/
def run [Peer σ] (c : Connection σ) (s : Service) : SessionRun σ :=
  (afterReading c s c.readLine).after [createdEvent c s]

/-- Goes on with a session whose gate has opened. -/
def resume [Peer σ] (p : Pending σ) : SessionRun σ :=
  afterReading p.connection p.service (p.connection.readOn p.buffer)

/-- What the log tells of a socket that cannot be set up. -/
def setupFailedEvent (address : Address) (channel : String) (f : Fault) : Event :=
  .log channel .error ("Couldn't set up session for " ++ address.quote ++ ": " ++ f.message) none

def closeFailed (channel : String) (f : Fault) : Event :=
  .log channel .error ("Couldn't close client: " ++ f.message) none

/-- Tells why a socket could not be set up, and closes it. -/
def setupFailed (socket : Socket σ) (address : Address) (channel : String) (f : Fault) :
    Run Outcome := do
  if f.isSystem then
    Run.emit (setupFailedEvent address channel f)
    Connection.tolerate socket.close fun g => Run.emit (closeFailed channel g)
    return .readError
  else Run.fail f

/-- The connection that a session makes of an accepted socket. -/
def connectionOf (settings : Settings) (socket : Socket σ) (address : Address) (channel : String)
    (id : Value) (now : Double) : Connection σ where
  socket := socket
  address := address
  charset := settings.charset
  bufferSize := settings.bufferSize
  maxLineBytes := settings.maxLineBytes
  channel := channel
  id := id
  createdAt := .double now

def serviceOf (settings : Settings) (classifier : Classifier) (channel : String) (now : Double) :
    Service where
  classifier := classifier
  outputFormat := .format settings.outputFormat
  preserveSpacing := settings.preserveSpacing
  channel := channel
  now := now

/-- Serves an accepted socket from start to close. -/
def handle [Peer σ] (settings : Settings) (classifier : Classifier) (channel : String) (id : Value)
    (now : Double) (socket : Socket σ) (address : Address) : SessionRun σ :=
  let c := connectionOf settings socket address channel id now
  let setup := c.start settings.readTimeout
  match setup.result with
  | .error f => (SessionRun.ofRun (setupFailed socket address channel f)).after setup.events
  | .ok () => (run c (serviceOf settings classifier channel now)).after setup.events

end Session

end LineTagger
