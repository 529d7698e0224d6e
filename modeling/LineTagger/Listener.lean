import LineTagger.Event
import LineTagger.Settings

/-!
The listening socket of a server: made on request, kept until it is closed, and made anew after that.
While a listener accepts clients, two signals of the process ask it to stop.
-/

namespace LineTagger

/-- The signals that ask a program to stop. -/
inductive Signal where
  | interrupt
  | terminate
  deriving DecidableEq, Repr, Inhabited

def Signal.name : Signal → String
  | .interrupt => "SIGINT"
  | .terminate => "SIGTERM"

/-- What a process does on a signal: what it did before any listener, or it stops a listener. -/
inductive Disposition where
  | initial
  | stopsListener
  deriving DecidableEq, Repr, Inhabited

/-- What a process does on each signal. -/
structure SignalTable where
  interrupt : Disposition := .initial
  terminate : Disposition := .initial
  deriving DecidableEq, Repr, Inhabited

namespace SignalTable

def get (t : SignalTable) : Signal → Disposition
  | .interrupt => t.interrupt
  | .terminate => t.terminate

def set (t : SignalTable) (s : Signal) (d : Disposition) : SignalTable :=
  match s with
  | .interrupt => { t with interrupt := d }
  | .terminate => { t with terminate := d }

end SignalTable

/-- What the operations of one listening socket fail with. -/
structure ListenerFaults where
  create : Option Fault := none
  setReuse : Option Fault := none
  bind : Option Fault := none
  listen : Option Fault := none
  setTimeout : Option Fault := none
  /-- asking the socket for its address -/
  name : Option Fault := none
  close : Option Fault := none
  deriving Repr, Inhabited

/-- A listener and the process around it. -/
structure Listener where
  host : Value
  port : Value
  backlog : Value
  pollInterval : Value
  channel : String
  /-- what each attempt at a listening socket meets -/
  faults : Nat → ListenerFaults := fun _ => {}
  /-- the address at which a listening socket finds itself -/
  name : Address := { host := .text "127.0.0.1", port := .int 50000 }
  attempts : Nat := 0
  /-- the listening socket that is open, by the number of its attempt -/
  held : Option Nat := none
  /-- the address of the last listening socket -/
  bound : Option Address := none
  ready : Bool := false
  stopping : Bool := false
  signals : SignalTable := {}
  /-- what the process did on signals before this listener took them over -/
  saved : List (Signal × Disposition) := []

namespace Listener

/-- The channel of the log that a listener uses of its own. -/
def ownChannel : String := "tagserver.core.socket_server"

/-- The listener that settings ask for. -/
def ofSettings (s : Settings) (channel : String) : Listener where
  host := s.host
  port := s.port
  backlog := s.backlog
  pollInterval := s.acceptPollInterval
  channel := channel

/-- Shows an operation and fails with its fault, if it has one. -/
def act (n : Nat) (op : ListenerOp) (f : Option Fault) : Run Unit := do
  Run.emit (.listener n op)
  Run.guardFault f

/-- Where a listener is to be found: its last address, or else the one that it asks for. -/
def address (l : Listener) : Address := l.bound.getD { host := l.host, port := l.port }

/-- Whether a listener accepts clients. -/
def isRunning (l : Listener) : Bool := l.ready && !l.stopping

/-- The failure to listen, with its reason. -/
def bindFault (l : Listener) (f : Fault) : Fault :=
  .bind l.host l.port f.message

/-- The steps by which a new socket becomes a listening one. -/
def prepare (l : Listener) (n : Nat) : Run Unit := do
  let f := l.faults n
  act n .setReuse f.setReuse
  act n (.bind l.host l.port) f.bind
  act n (.listen l.backlog) f.listen
  act n (.setTimeout l.pollInterval) f.setTimeout

/-- Closes a socket that could not be made a listening one, if that was refused. -/
def giveUp (l : Listener) (n : Nat) (f : Fault) : Run Unit :=
  if f.isSystem || f.isOverflow then do
    act n .close (l.faults n).close
    Run.log l.channel .error
      ("Failed to bind to " ++ l.host.display ++ ":" ++ l.port.display ++ ": " ++ f.message)
    Run.fail (l.bindFault f)
  else Run.fail f

/-- Makes a listening socket. -/
def make (l : Listener) (n : Nat) : Run Unit := do
  match ← (act n .create (l.faults n).create).attempt with
  | .error f => Run.fail (if f.isSystem then l.bindFault f else f)
  | .ok () =>
    match ← (l.prepare n).attempt with
    | .error f => l.giveUp n f
    | .ok () => return ()

/-- Asks a listening socket for its address. -/
def findAddress (l : Listener) (n : Nat) : Run Address := do
  Run.guardFault (l.faults n).name
  Run.log l.channel .info ("Listening on " ++ l.name.pair)
  return l.name

/-- Sees to it that there is a listening socket, and tells its address. A socket that listens is kept,
even when it does not tell its address. -/
def bind (l : Listener) : Run Address × Listener :=
  match l.held with
  | some _ => (pure l.address, l)
  | none =>
    let n := l.attempts
    let made := l.make n
    let l := { l with attempts := n + 1 }
    match made.result with
    | .error f => (⟨made.events, .error f⟩, l)
    | .ok () =>
      let found := l.findAddress n
      let l := { l with held := some n }
      (⟨made.events ++ found.events, found.result⟩,
        match found.result with
        | .ok a => { l with bound := some a }
        | .error _ => l)

/-- Takes over a signal. -/
def catchSignal (l : Listener) (s : Signal) : Listener :=
  { l with
    saved := l.saved ++ [(s, l.signals.get s)]
    signals := l.signals.set s .stopsListener }

/-- Takes over the signals that ask a program to stop. Only the main thread of a process can. -/
def catchSignals (l : Listener) (onMain : Bool) : Listener :=
  if onMain then (l.catchSignal .terminate).catchSignal .interrupt else l

/-- Gives back the signals that were taken over. -/
def restoreSignals (l : Listener) : Listener :=
  { l with signals := l.saved.foldl (fun t (s, d) => t.set s d) l.signals, saved := [] }

/-- Asks a listener to stop, once and for all. -/
def shutdown (l : Listener) : Listener := { l with stopping := true }

/-- A signal comes to the process. -/
def deliver (l : Listener) (s : Signal) : List Event × Listener :=
  match l.signals.get s with
  | .initial => ([], l)
  | .stopsListener =>
    ([.log l.channel .info ("Received " ++ s.name ++ ", shutting down...") none], l.shutdown)

/-- Closes the listening socket, if one is open. -/
def closeHeld (l : Listener) : Run Unit :=
  match l.held with
  | none => pure ()
  | some n => act n .close (l.faults n).close

/-- Gives back the signals and closes the listening socket; that the operating system refuses to
close it does not matter. -/
def cleanup (l : Listener) : Run Unit × Listener :=
  let l := l.restoreSignals
  let closed := l.closeHeld
  let stopped : Run Unit × Listener :=
    (⟨closed.events ++ [.log l.channel .info "Listener stopped" none], .ok ()⟩,
      { l with held := none, ready := false })
  match closed.result with
  | .ok () => stopped
  | .error f => if f.isSystem then stopped else (closed, l)

end Listener

end LineTagger
