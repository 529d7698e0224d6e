import LineTagger.AcceptLoop
import LineTagger.Model
import LineTagger.Session
import LineTagger.Text.Case
import LineTagger.Workers

/-!
A server: a listener that hands every client it accepts to a session with a thread of its own. The
number of sessions at a time may be limited; a client for which there is no place is closed at once.
-/

namespace LineTagger

/-- A server and the sessions that wait. -/
structure Server (σ : Type) where
  settings : Settings
  classifier : Classifier
  channel : String
  now : Double
  reception : Reception (Workers (Pending σ))

/-- A stretch of a session as work of a thread. -/
def SessionRun.work {σ : Type} (r : SessionRun σ) : Work (Pending σ) where
  events := r.events
  stop := match r.stop with
    | .ended (.ok _) => .ended none
    | .ended (.error f) => .ended (some f)
    | .parked gate p => .waits gate p

namespace Server

variable {σ : Type}

/-- The channel of the log that a server uses of its own. -/
def ownChannel : String := "tagserver.server"

/-- The server of settings that can be used, before it listens. -/
def ofUsable (settings : Settings) (classifier : Classifier) (channel : String) (now : Double) :
    Server σ where
  settings := settings
  classifier := classifier
  channel := channel
  now := now
  reception :=
    { listener := Listener.ofSettings settings channel
      state := { capacity := { limit := settings.maxSessions }, channel := channel } }

/-- The server of settings, if they can be used. -/
def ofSettings (s : Settings) (classifier : Classifier) (channel : String) (now : Double) :
    Except Fault (Server σ) := do
  s.validate
  return ofUsable s classifier channel now

/-- The session of an accepted client. -/
def session [Peer σ] (s : Server σ) (socket : Socket σ) (a : Address) (number : Nat) :
    Work (Pending σ) :=
  (Session.handle s.settings s.classifier s.channel (connectionId (number + 1)) s.now socket a).work

/-- Closes a client for which there is no place. -/
def turnAway (s : Server σ) (socket : Socket σ) (a : Address) : Run Unit := do
  Run.log s.channel .warning
    ("Session limit (" ++ s.settings.maxSessions.display ++
      ") reached, closing connection from " ++ a.pair)
  socket.close

/-- Hands an accepted client to a thread, or turns it away. -/
def dispatch [Peer σ] (s : Server σ) (w : Workers (Pending σ)) (socket : Socket σ) (a : Address) :
    Handover (Workers (Pending σ)) :=
  let (r, w) := w.spawn (.text ("session-" ++ a.pair)) (s.session socket a)
  { run := do
      if ← r then return () else s.turnAway socket a
    state := w }

/-- Lets the sessions that wait at a gate go on. -/
def openGate [Peer σ] (w : Workers (Pending σ)) (gate : String) :
    List Event × Workers (Pending σ) :=
  w.release gate fun p => (Session.resume p).work

/-- The server as the one that takes over clients. -/
def host [Peer σ] (s : Server σ) : Host σ (Workers (Pending σ)) where
  handle := s.dispatch
  release := openGate

/-- Starts to listen. -/
def start (s : Server σ) : Run Address × Server σ :=
  let (r, l) := s.reception.listener.bind
  (r, { s with reception := { s.reception with listener := l } })

/-- Says that the server is ready, and how it answers. -/
def announce (s : Server σ) (a : Address) : Event :=
  .log s.channel .info
    ("Tagging server ready on " ++ a.pair ++ " (format=" ++ s.settings.outputFormat.name ++
      ", preserveSpacing=" ++ String.ofList (lower s.settings.preserveSpacing.display.toList) ++
      ", encoding=" ++ s.settings.charset.display ++ ")") none

/-- Listens and serves clients until the server is asked to stop. -/
def run [Peer σ] (s : Server σ) (onMain : Bool) (visits : List (Visit σ)) :
    Run Unit × Server σ × List (Visit σ) :=
  let (r, s) := s.start
  match r.result with
  | .error f => (⟨r.events, .error f⟩, s, visits)
  | .ok a =>
    let served := Reception.serve s.host s.reception onMain visits
    (⟨r.events ++ s.announce a :: served.events, served.result⟩,
      { s with reception := served.reception }, served.visits)

/-- Asks a server to stop; sessions that run are left to themselves. -/
def shutdown (s : Server σ) : Server σ :=
  { s with reception := { s.reception with listener := s.reception.listener.shutdown } }

/-- Lets the sessions that wait at a gate go on. -/
def release [Peer σ] (s : Server σ) (gate : String) : List Event × Server σ :=
  let (events, w) := openGate s.reception.state gate
  (events, { s with reception := { s.reception with state := w } })

end Server

end LineTagger
