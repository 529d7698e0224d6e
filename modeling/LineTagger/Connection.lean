import LineTagger.Charset
import LineTagger.Limit
import LineTagger.Reading
import LineTagger.Socket

/-!
A connection to one client: reads a line, writes a line, and closes. Bytes are gathered until a line
feed comes, and decoded only then; whatever follows the line feed is left aside.
-/

namespace LineTagger

/-- A connection and the stage that it is in. -/
structure Connection (σ : Type) where
  socket : Socket σ
  address : Address
  charset : Value := .text "utf-8"
  bufferSize : Value := .int 4096
  maxLineBytes : Value := .int (1024 * 1024)
  channel : String
  id : Value
  stage : Stage := .new
  createdAt : Value
  deriving Repr, Inhabited

/-- Where reading a line stands that waits for more: how many more times it may ask, the bytes so
far, last first, and their number. -/
structure LineBuffer where
  fuel : Nat
  bytes : Bytes
  count : Nat
  deriving Repr, Inhabited

/-- How reading a line stopped: with a line (or none) or a fault, or at a gate. -/
inductive LineStop (α : Type) where
  | done (r : Except Fault (Option α))
  | parked (gate : String) (buffer : LineBuffer)

/-- A stretch of reading: what it showed, the peer after it, and how it stopped. The line is gathered
as bytes and becomes a text when it is whole. -/
structure LineReading (σ α : Type) where
  events : List Event
  peer : σ
  stop : LineStop α

namespace Connection

variable {σ : Type}

def lineFeed : UInt8 := 10
def carriageReturn : UInt8 := 13

/-- A line without the carriage return at its end. -/
def trimReturn (line : Bytes) : Bytes :=
  if line.getLast? = some carriageReturn then line.dropLast else line

/-- The line in the bytes that came, if any came: what precedes the first line feed, without the
carriage return at its end. -/
def lineOf (limit : Value) (buffer : Bytes) : Except Fault (Option Bytes) :=
  if buffer.isEmpty then .ok none
  else
    let line := buffer.takeWhile (· ≠ lineFeed)
    match Limit.exceeds line.length limit with
    | .error f => .error f
    | .ok true => .error (.lineTooLong limit)
    | .ok false => .ok (some (trimReturn line))

/-- Takes what a request for bytes brings, and asks again until a line feed or the end has come, or
more bytes than the limit. -/
def gatherFrom [Peer σ] (c : Connection σ) : Nat → Bytes → Nat → σ → LineReading σ Bytes
  | 0, _, _, s => ⟨[], s, .done (.error (.lineTooLong c.maxLineBytes))⟩
  | fuel + 1, bytes, count, s =>
    match Peer.receive s c.bufferSize with
    | (.waits gate, s) => ⟨[], s, .parked gate ⟨fuel + 1, bytes, count⟩⟩
    | (.fault f, s) => ⟨[], s, .done (.error f)⟩
    | (.bytes chunk, s) =>
      let bytes' := chunk.reverseAux bytes
      let count' := count + chunk.length
      if chunk.isEmpty || chunk.contains lineFeed then
        ⟨[], s, .done (lineOf c.maxLineBytes bytes'.reverse)⟩
      else match Limit.exceeds count' c.maxLineBytes with
        | .error f => ⟨[], s, .done (.error f)⟩
        | .ok true => ⟨[], s, .done (.error (.lineTooLong c.maxLineBytes))⟩
        | .ok false =>
          let r := gatherFrom c fuel bytes' count' s
          { r with events := .socket c.socket.id (.receive c.bufferSize) :: r.events }

section

variable [Peer σ] {c : Connection σ} {s t : σ} (fuel : Nat) (bytes : Bytes) (count : Nat)

theorem gatherFrom_fault {f : Fault} (h : Peer.receive s c.bufferSize = (.fault f, t)) :
    c.gatherFrom (fuel + 1) bytes count s = ⟨[], t, .done (.error f)⟩ := by
  simp only [gatherFrom, h]

theorem gatherFrom_closed (h : Peer.receive s c.bufferSize = (.bytes [], t)) :
    c.gatherFrom (fuel + 1) bytes count s = ⟨[], t, .done (lineOf c.maxLineBytes bytes.reverse)⟩ := by
  simp [gatherFrom, h]

theorem gatherFrom_lineFeed {chunk : Bytes} (h : Peer.receive s c.bufferSize = (.bytes chunk, t))
    (hmem : lineFeed ∈ chunk) :
    c.gatherFrom (fuel + 1) bytes count s =
      ⟨[], t, .done (lineOf c.maxLineBytes (bytes.reverse ++ chunk))⟩ := by
  simp [gatherFrom, h, hmem, List.reverseAux_eq]

/-- What bytes without a line feed come to, by how their number compares with the limit. -/
theorem gatherFrom_piece {chunk : Bytes} (h : Peer.receive s c.bufferSize = (.bytes chunk, t))
    (hchunk : chunk ≠ []) (hmem : lineFeed ∉ chunk) :
    c.gatherFrom (fuel + 1) bytes count s =
      match Limit.exceeds (count + chunk.length : Nat) c.maxLineBytes with
      | .error f => ⟨[], t, .done (.error f)⟩
      | .ok true => ⟨[], t, .done (.error (.lineTooLong c.maxLineBytes))⟩
      | .ok false =>
        let r := c.gatherFrom fuel (chunk.reverse ++ bytes) (count + chunk.length) t
        { r with events := .socket c.socket.id (.receive c.bufferSize) :: r.events } := by
  simp [gatherFrom, h, hchunk, hmem, List.reverseAux_eq]

end

/-- Goes on gathering where it stands. -/
def gather [Peer σ] (c : Connection σ) (b : LineBuffer) : LineReading σ Bytes :=
  c.gatherFrom b.fuel b.bytes b.count c.socket.peer

/-- How many requests for bytes a line may take. Each brings a byte at least, so that one more than
the limit suffices; where there is no limit, the peer ends the line. -/
def requests [Peer σ] (c : Connection σ) : Nat :=
  (Limit.bound? c.maxLineBytes).getD (Peer.patience c.socket.peer) + 1

/-- Gathers a line. The first request for bytes is shown before anything comes of it. -/
def gatherLine [Peer σ] (c : Connection σ) : LineReading σ Bytes :=
  let r := c.gather ⟨c.requests, [], 0⟩
  { r with events :=
      .stage c.socket.id .reading :: .socket c.socket.id (.receive c.bufferSize) :: r.events }

/-- The text of a line, if one was gathered. -/
def decodeLine (charset : Value) : Except Fault (Option Bytes) → Except Fault (Option (List Char))
  | .error f => .error f
  | .ok none => .ok none
  | .ok (some line) => (Charset.decodeBy charset line).map some

/-- A line that was gathered, as a text. -/
def decoded (c : Connection σ) (r : LineReading σ Bytes) : LineReading σ (List Char) where
  events := r.events
  peer := r.peer
  stop := match r.stop with
    | .done line => .done (decodeLine c.charset line)
    | .parked gate buffer => .parked gate buffer

/-- Reads a line. -/
def readLine [Peer σ] (c : Connection σ) : LineReading σ (List Char) := c.decoded c.gatherLine

/-- Goes on reading where it stands. -/
def readOn [Peer σ] (c : Connection σ) (b : LineBuffer) : LineReading σ (List Char) :=
  c.decoded (c.gather b)

/-- The connection after a stretch of reading. -/
def afterReading {α : Type} (c : Connection σ) (r : LineReading σ α) : Connection σ :=
  { c with socket := { c.socket with peer := r.peer }, stage := .reading }

/-- The line that a value makes: a text with one line feed at its end. -/
def lineText (v : Value) : Except Fault (List Char) :=
  match v with
  | .bytes _ => .error (.mismatch .suffixOfBytes)
  | v =>
    match v.text? with
    | none => .error (.mismatch (.noAttribute v.typeName "endswith"))
    | some s =>
      let cs := s.toList
      .ok (if cs.getLast? = some '\n' then cs else cs ++ ['\n'])

/-- The bytes of the line that a value makes. -/
def encodeLine (charset v : Value) : Except Fault Bytes :=
  match lineText v with
  | .error f => .error f
  | .ok line => Charset.encodeBy charset line

/-- Writes a line. -/
def sendLine (c : Connection σ) (v : Value) : Run Unit := do
  Run.emit (.stage c.socket.id .writing)
  let bs ← Run.ofExcept (encodeLine c.charset v)
  c.socket.send bs

/-- Runs a step of closing whose refusal by the operating system is no more than a line of the log. -/
def tolerate (step : Run Unit) (told : Fault → Run Unit) : Run Unit := do
  match ← step.attempt with
  | .ok () => return ()
  | .error f => if f.isSystem then told f else Run.fail f

/-- How old a connection is. -/
def age (c : Connection σ) (now : Double) : Except Fault Double :=
  match c.createdAt.quantity? with
  | some _ => (Reading.real c.createdAt).map now.sub
  | none => .error (.mismatch (.noDifference "float" c.createdAt.typeName))

/-- What marks the lines of the log that are about a connection. -/
def tag (c : Connection σ) : String := "[" ++ c.id.display ++ "] "

def shutdownFailed (c : Connection σ) (f : Fault) : Event :=
  .log c.channel .debug (c.tag ++ "shutdown failed: " ++ f.message) none

def closeFailed (c : Connection σ) (f : Fault) : Event :=
  .log c.channel .warning (c.tag ++ "Couldn't close client socket: " ++ f.message) none

/-- The steps of closing: end the stream, release the socket. -/
def release (c : Connection σ) : Run Unit := do
  Run.emit (.stage c.socket.id .closing)
  tolerate c.socket.shutdown fun f => Run.emit (c.shutdownFailed f)
  tolerate c.socket.close fun f => Run.emit (c.closeFailed f)

/-- What the log tells of a connection that is closed. -/
def closedEvent (c : Connection σ) (age : Double) : Event :=
  .log c.channel .debug (c.tag ++ "Connection closed after " ++ age.threePlaces ++ "s") none

/-- Closes, unless closed already. -/
def close (c : Connection σ) (now : Double) : Run Unit :=
  if c.stage = .closed then pure ()
  else do
    c.release
    Run.emit (.stage c.socket.id .closed)
    let age ← Run.ofExcept (c.age now)
    Run.emit (c.closedEvent age)

/-- The last stage among events, or the one before them. -/
def stageAfter (before : Stage) (es : List Event) : Stage :=
  es.foldl (fun s e => match e with
    | .stage _ t => t
    | _ => s) before

/-- Does something with a connection and closes it, whatever came of that. -/
def closing (c : Connection σ) (now : Double) {α : Type} (body : Run α) : Run α := do
  let r ← body.attempt
  let c := { c with stage := stageAfter c.stage body.events }
  c.close now
  Run.ofExcept r

/-- Takes over a socket. -/
def start (c : Connection σ) (readTimeout : Value) : Run Unit :=
  c.socket.setTimeout readTimeout

end Connection

/-- The `n`-th identifier of a connection: eight hexadecimal digits. -/
def connectionId (n : Nat) : Value := .text (String.ofList (hexDigits 8 n))

end LineTagger
