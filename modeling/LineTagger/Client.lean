import LineTagger.Session

/-!
A client asks for one line at a time, each over a connection of its own: it sends the line, reads the
answer up to its line feed, and closes.
-/

namespace LineTagger

/-- What is at the other end of a client's connection: a script, or a server that serves one session
with all that the client has sent. -/
inductive Remote where
  | script (s : Script)
  | server (settings : Settings) (classifier : Classifier) (channel : String)

/-- What an attempt to connect comes to. -/
inductive Dial where
  | fault (f : Fault)
  | reached (s : Socket Remote)

/-- What clients find: what attempts to connect come to, how many sockets and sessions there were
before, and the pieces in which bytes arrive at a server and come back from it. -/
structure Network where
  dials : List Dial
  now : Double
  sockets : Nat := 0
  sessions : Nat := 0
  requestPieces : Bytes → List Bytes := fun bs => [bs]
  replyPieces : Bytes → List Bytes := fun bs => [bs]

/-- How a client connects. -/
structure Client where
  host : Value := .text "localhost"
  port : Value := .int 1234
  charset : Value := .text "utf-8"
  timeout : Value := .null
  bufferSize : Value := .int 4096
  deriving Repr, Inhabited

/-- A host by its name; no name at all means this machine. -/
def hostOrLocal (name : Value) : Value := if name.isTrue then name else .text "localhost"

namespace Remote

/-- The address that a client has for a server at the other end. -/
def clientAddress : Address := { host := .text "127.0.0.1", port := .int 40000 }

/-- The bytes that were sent on any socket. -/
def sentBytes (es : List Event) : Bytes :=
  es.flatMap fun e => match e with
    | .socket _ (.send bs) => bs
    | _ => []

/-- What a remote delivers to a client that has sent some bytes. -/
def reply (n : Network) (heard : Bytes) : Remote → Run Script × Network
  | .script s => (pure s, n)
  | .server settings classifier channel =>
    let socket : Socket Script :=
      { id := n.sockets, peer := { arrivals := (n.requestPieces heard).map .bytes } }
    let r := Session.handle settings classifier channel (connectionId (n.sessions + 1)) n.now socket
      clientAddress
    let n := { n with sockets := n.sockets + 1, sessions := n.sessions + 1 }
    match r.stop with
    | .ended (.ok o) =>
      let sent := (n.replyPieces (sentBytes r.events)).map .bytes
      (⟨r.events ++ [.outcome o], .ok { arrivals := sent }⟩, n)
    | .ended (.error f) => (⟨r.events, .error f⟩, n)
    | .parked .. => (⟨r.events, .ok {}⟩, n)

end Remote

namespace Client

/-- What connecting fails with when nobody is there. -/
def refused : Fault := .ofNumber 111 "Connection refused"

/-- Connects to the client's host. -/
def connect (c : Client) (n : Network) : Run (Socket Remote) × Network :=
  let shown : Event := .connect c.host c.port c.timeout
  match n.dials with
  | [] => (⟨[shown], .error refused⟩, n)
  | .fault f :: dials => (⟨[shown], .error f⟩, { n with dials })
  | .reached s :: dials =>
    (⟨[shown], .ok { s with id := n.sockets }⟩, { n with dials, sockets := n.sockets + 1 })

/-- Asks for bytes until a line feed or the end has come. A request without a bound brings all that
there is and is not repeated. -/
def gather (c : Client) (id : Nat) (s : Script) : Run Bytes :=
  let asked : Event := .socket id (.receive c.bufferSize)
  match h : s.receive c.bufferSize with
  | (.fault f, _) => ⟨[asked], .error f⟩
  | (.waits _, _) => ⟨[asked], .ok []⟩
  | (.bytes chunk, t) =>
    if hc : chunk = [] then ⟨[asked], .ok []⟩
    else if chunk.contains Connection.lineFeed then ⟨[asked], .ok chunk⟩
    else if hn : c.bufferSize.isNull then ⟨[asked], .ok chunk⟩
    else
      have := Script.weight_receive h hn hc
      let rest := gather c id t
      ⟨asked :: rest.events, rest.result.map (chunk ++ ·)⟩
termination_by s.weight

/-- Bytes without the carriage returns at their end. -/
def trimReturns (bs : Bytes) : Bytes :=
  (bs.reverse.dropWhile (· = Connection.carriageReturn)).reverse

/-- The answer in the bytes that came, if any came. -/
def answerOf (charset : Value) (bs : Bytes) : Except Fault (Option (List Char)) :=
  if bs.isEmpty then .ok none
  else (Charset.decodeBy charset (trimReturns (bs.takeWhile (· ≠ Connection.lineFeed)))).map some

/-- Sends a line. -/
def ask (c : Client) (s : Socket Remote) (text : List Char) : Run Bytes := do
  let bs ← Run.ofExcept (Charset.encodeBy c.charset (text ++ ['\n']))
  s.send bs
  return bs

/-- Sends a line and reads the answer. -/
def exchange (c : Client) (s : Socket Remote) (n : Network) (text : List Char) :
    Run (Option (List Char)) × Network :=
  let asked := c.ask s text
  match asked.result with
  | .error f => (⟨asked.events, .error f⟩, n)
  | .ok heard =>
    let (reply, n) := s.peer.reply n heard
    let answered : Run (Option (List Char)) := do
      let _ ← asked
      let script ← reply
      let bs ← c.gather s.id script
      Run.ofExcept (answerOf c.charset bs)
    (answered, n)

/-- Has one line tagged: the answer, or nothing when the other end closed without one. -/
def tag (c : Client) (n : Network) (text : List Char) : Run (Option (List Char)) × Network :=
  let (connected, n) := c.connect n
  match connected.result with
  | .error f => (⟨connected.events, .error f⟩, n)
  | .ok s =>
    let (exchanged, n) := c.exchange s n text
    let closed : Run (Option (List Char)) := do
      let _ ← connected
      let r ← exchanged.attempt
      s.close
      Run.ofExcept r
    (closed, n)

end Client

end LineTagger
