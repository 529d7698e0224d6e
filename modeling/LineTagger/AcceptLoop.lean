import LineTagger.Listener
import LineTagger.Socket

/-!
Accepting clients until a listener is asked to stop. What happens while one client is accepted never
ends the loop, unless the fault is neither of the system nor of the running program.
-/

namespace LineTagger

/-- What waiting for a client comes to. -/
inductive Visit (σ : Type) where
  /-- a gate opens; the wait goes on -/
  | release (gate : String)
  /-- a signal may come, the listener may be asked to stop, and then a client or a fault may come -/
  | arrival (signal : Option Signal) (stops : Bool) (fault : Option Fault)
      (client : Option (Socket σ × Address))

/-- What came of handing over a client. -/
structure Handover (τ : Type) where
  run : Run Unit
  /-- the listener was asked to stop -/
  stops : Bool := false
  state : τ

/-- Who takes over clients, in some state. -/
structure Host (σ τ : Type) where
  handle : τ → Socket σ → Address → Handover τ
  /-- lets go on what waits at a gate -/
  release : τ → String → List Event × τ

/-- An accept loop between two waits. -/
structure Reception (τ : Type) where
  listener : Listener
  /-- how many clients were accepted so far -/
  accepted : Nat := 0
  state : τ

/-- A stretch of an accept loop: what it showed, what came of it, and what is left. -/
structure ReceptionRun (σ τ : Type) where
  events : List Event
  result : Except Fault Unit
  reception : Reception τ
  visits : List (Visit σ)

namespace ReceptionRun

variable {σ τ : Type}

/-- What follows other events. -/
def after (es : List Event) (r : ReceptionRun σ τ) : ReceptionRun σ τ :=
  { r with events := es ++ r.events }

end ReceptionRun

/-- Whether an accept loop goes on, leaves, or lets a fault escape. -/
inductive Verdict where
  | goesOn
  | leaves
  | escapes (f : Fault)

namespace Reception

variable {σ τ : Type}

def noClient : Fault := .system .timeout [.text "timed out"]

/-- Closes a client; that the operating system refuses is no more than a line of the log. -/
def closeQuietly (channel : String) (s : Socket σ) : Run Unit := do
  match ← s.close.attempt with
  | .ok () => return ()
  | .error f =>
    if f.isSystem then Run.log channel .error ("Couldn't close client: " ++ f.message)
    else Run.fail f

/-- What a fault during accepting leads to. A deadline that passed is no fault at all, and a listener
that was asked to stop ends the loop. -/
def meet (l : Listener) (client : Option (Socket σ)) (f : Fault) : List Event × Verdict :=
  if f.isTimeout then ([], .goesOn)
  else if f.isSystem || f.isRuntime then
    if l.stopping then ([], .leaves)
    else
      let told : Event :=
        .log l.channel .error ("Couldn't accept: " ++ f.message) (some f)
      match client with
      | none => ([told], .goesOn)
      | some s =>
        let r := closeQuietly l.channel s
        (told :: r.events, match r.result with
          | .ok () => .goesOn
          | .error g => .escapes g)
  else ([], .escapes f)

/-- Hands over an accepted client. -/
def receive (h : Host σ τ) (r : Reception τ) (s : Socket σ) (a : Address) :
    List Event × Verdict × Reception τ :=
  let o := h.handle r.state s a
  let l := if o.stops then r.listener.shutdown else r.listener
  let r := { r with listener := l, state := o.state }
  let accepted : Event := .log l.channel .debug ("Accepted request from " ++ a.pair) none
  match o.run.result with
  | .ok () => (accepted :: o.run.events, .goesOn, r)
  | .error f =>
    let (events, verdict) := meet l (some s) f
    (accepted :: o.run.events ++ events, verdict, r)

/-- What happens before a wait ends. -/
def disturb (l : Listener) (signal : Option Signal) (stops : Bool) : List Event × Listener :=
  let (events, l) := match signal with
    | none => ([], l)
    | some s => l.deliver s
  (events, if stops then l.shutdown else l)

/-- Waits for one client. -/
def await (h : Host σ τ) (r : Reception τ) (signal : Option Signal) (stops : Bool)
    (fault : Option Fault) (client : Option (Socket σ × Address)) :
    List Event × Verdict × Reception τ :=
  let (disturbances, l) := disturb r.listener signal stops
  let shown := .listener (l.held.getD 0) .accept :: disturbances
  let r := { r with listener := l }
  match fault, client with
  | some f, _ =>
    let (events, verdict) := meet (σ := σ) l none f
    (shown ++ events, verdict, r)
  | none, some (s, a) =>
    let (events, verdict, r') :=
      receive h { r with accepted := r.accepted + 1 } { s with id := r.accepted } a
    (shown ++ events, verdict, r')
  | none, none =>
    let (events, verdict) := meet (σ := σ) l none noClient
    (shown ++ events, verdict, r)

/-- Accepts clients until the listener is asked to stop. When no more visits are to come, it is. -/
def loop (h : Host σ τ) (r : Reception τ) : List (Visit σ) → ReceptionRun σ τ
  | [] =>
    if r.listener.stopping then ⟨[], .ok (), r, []⟩
    else ⟨[.listener (r.listener.held.getD 0) .acceptEnd], .ok (),
      { r with listener := r.listener.shutdown }, []⟩
  | v :: visits =>
    if r.listener.stopping then ⟨[], .ok (), r, v :: visits⟩
    else match v with
      | .release gate =>
        let (events, state) := h.release r.state gate
        (loop h { r with state } visits).after events
      | .arrival signal stops fault client =>
        match await h r signal stops fault client with
        | (events, .goesOn, r) => (loop h r visits).after events
        | (events, .leaves, r) => ⟨events, .ok (), r, visits⟩
        | (events, .escapes f, r) => ⟨events, .error f, r, visits⟩

/-- Binds the listener, accepts clients, and cleans up whatever came of that. -/
def serve (h : Host σ τ) (r : Reception τ) (onMain : Bool) (visits : List (Visit σ)) :
    ReceptionRun σ τ :=
  let (binding, l) := r.listener.bind
  match binding.result with
  | .error f => ⟨binding.events, .error f, { r with listener := l }, visits⟩
  | .ok _ =>
    let l := { l.catchSignals onMain with ready := true }
    let body := loop h { r with listener := l } visits
    let (ending, l) := body.reception.listener.cleanup
    { events := binding.events ++ body.events ++ ending.events
      result := match ending.result with
        | .error f => .error f
        | .ok () => body.result
      reception := { body.reception with listener := l }
      visits := body.visits }

end Reception

end LineTagger
