import LineTagger.Charset.Bytes

/-!
What a run shows of itself, in order: lines of the log, operations on sockets and on the listener,
connections made and threads started. Stages of a connection are noted too.
-/

namespace LineTagger

/-- How serious a line of the log is. -/
inductive Level where
  | debug
  | info
  | warning
  | error
  deriving DecidableEq, Repr, Inhabited

namespace Level

def name : Level → String
  | debug => "DEBUG"
  | info => "INFO"
  | warning => "WARNING"
  | error => "ERROR"

/-- The number of a level; a log shows the lines whose number is not below its own. -/
def rank : Level → Int
  | debug => 10
  | info => 20
  | warning => 30
  | error => 40

end Level

/-- The life of a connection; it never goes back. -/
inductive Stage where
  | new
  | reading
  | classifying
  | writing
  | closing
  | closed
  deriving DecidableEq, Repr, Inhabited

namespace Stage

def name : Stage → String
  | new => "new"
  | reading => "reading"
  | classifying => "classifying"
  | writing => "writing"
  | closing => "closing"
  | closed => "closed"

/-- The place of a stage in the life of a connection. -/
def rank : Stage → Nat
  | new => 0
  | reading => 1
  | classifying => 2
  | writing => 3
  | closing => 4
  | closed => 5

end Stage

/-- How a session ended. -/
inductive Outcome where
  | responded
  | noInput
  | readError
  | classifyError
  | writeError
  deriving DecidableEq, Repr, Inhabited

namespace Outcome

def name : Outcome → String
  | responded => "responded"
  | noInput => "no_input"
  | readError => "read_error"
  | classifyError => "classify_error"
  | writeError => "write_error"

end Outcome

/-- An operation on a socket. -/
inductive SocketOp where
  | setTimeout (seconds : Value)
  | receive (n : Value)
  | send (bs : Bytes)
  | shutdown
  | close
  deriving Repr, Inhabited

/-- An operation on the listening socket. `acceptEnd` is the last wait for a client. -/
inductive ListenerOp where
  | create
  | setReuse
  | bind (host port : Value)
  | listen (backlog : Value)
  | setTimeout (seconds : Value)
  | accept
  | acceptEnd
  | close
  deriving Repr, Inhabited

/-- The address of a peer: the host and port, and what else an address may hold. -/
structure Address where
  host : Value
  port : Value
  more : List Value := []
  deriving Repr, Inhabited

namespace Address

/-- Host and port with a colon between them. -/
def pair (a : Address) : String := a.host.display ++ ":" ++ a.port.display

/-- The parts of an address. -/
def parts (a : Address) : List Value := a.host :: a.port :: a.more

/-- An address as messages show it. -/
def quote (a : Address) : String := "(" ++ Value.commaJoined (Value.quoteAll a.parts) ++ ")"

end Address

/-- Something that a run shows. -/
inductive Event where
  | log (channel : String) (level : Level) (message : String) (cause : Option Fault)
  | socket (id : Nat) (op : SocketOp)
  /-- the connection of a socket enters a stage -/
  | stage (id : Nat) (stage : Stage)
  | listener (index : Nat) (op : ListenerOp)
  | connect (host port seconds : Value)
  | thread (name : String)
  | target (args : List Value)
  | parked (gate : String)
  | handle (id : Nat) (address : Address)
  | outcome (o : Outcome)
  | entered
  /-- a classifier of some kind is called -/
  | classify (kind : String) (text : List Char) (format preserve : Value)
  /-- a text on the standard output -/
  | output (text : List Char)
  /-- a text on the standard error -/
  | errorOutput (text : List Char)
  deriving Repr, Inhabited

/-- Something that ran: what it showed, and what came out or why nothing did. -/
structure Run (α : Type) where
  events : List Event
  result : Except Fault α

namespace Run

variable {α β : Type}

def ofExcept (r : Except Fault α) : Run α := ⟨[], r⟩

def fail (f : Fault) : Run α := ⟨[], .error f⟩

/-- Shows one event. -/
def emit (e : Event) : Run Unit := ⟨[e], .ok ()⟩

def log (channel : String) (level : Level) (message : String) : Run Unit :=
  emit (.log channel level message none)

/-- Writes a line to the log with the fault that caused it. -/
def logFault (channel : String) (level : Level) (message : String) (f : Fault) : Run Unit :=
  emit (.log channel level message (some f))

protected def pure (a : α) : Run α := ⟨[], .ok a⟩

/-- Runs one thing after another; the second one not at all when the first fails. -/
protected def bind (r : Run α) (f : α → Run β) : Run β :=
  match r.result with
  | .error e => ⟨r.events, .error e⟩
  | .ok a => ⟨r.events ++ (f a).events, (f a).result⟩

instance : Monad Run where
  pure := Run.pure
  bind := Run.bind

/-- Runs something whose failure is a result. -/
def attempt (r : Run α) : Run (Except Fault α) := ⟨r.events, .ok r.result⟩

/-- A step that fails when there is a fault for it. -/
def guardFault : Option Fault → Run Unit
  | none => pure ()
  | some f => fail f

theorem emit_bind (e : Event) (f : Unit → Run β) :
    emit e >>= f = ⟨e :: (f ()).events, (f ()).result⟩ := rfl

theorem mk_ok_bind (es : List Event) (a : α) (f : α → Run β) :
    (⟨es, .ok a⟩ : Run α) >>= f = ⟨es ++ (f a).events, (f a).result⟩ := rfl

@[simp] theorem ofExcept_ok_bind (a : α) (f : α → Run β) : ofExcept (.ok a) >>= f = f a := rfl

@[simp] theorem ofExcept_error_bind (e : Fault) (f : α → Run β) :
    ofExcept (.error e) >>= f = fail e := rfl

theorem attempt_bind (r : Run α) (f : Except Fault α → Run β) :
    r.attempt >>= f = ⟨r.events ++ (f r.result).events, (f r.result).result⟩ := rfl

@[simp] theorem events_pure (a : α) : (pure a : Run α).events = [] := rfl

@[simp] theorem result_pure (a : α) : (pure a : Run α).result = .ok a := rfl

end Run

end LineTagger
