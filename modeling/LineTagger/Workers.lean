import LineTagger.Capacity
import LineTagger.Event

/-!
Threads that work side by side. A thread works until it ends or must wait at a gate; when the gate
opens, the threads that wait there go on one after another, in the order in which they came.
-/

namespace LineTagger

/-- How a stretch of work stops: it ends, perhaps with a fault that escapes, or it waits at a gate. -/
inductive WorkStop (π : Type) where
  | ended (escaped : Option Fault)
  | waits (gate : String) (rest : π)
  deriving Repr, Inhabited

/-- A stretch of work: what it showed, and how it stopped. -/
structure Work (π : Type) where
  events : List Event
  stop : WorkStop π
  deriving Repr, Inhabited

/-- A thread that waits at a gate, and what it has still to do. -/
structure Waiting (π : Type) where
  name : String
  gate : String
  rest : π
  deriving Repr, Inhabited

/-- A group of threads. -/
structure Workers (π : Type) where
  capacity : Capacity
  channel : String
  /-- which starts of a thread fail, counted from zero -/
  badStarts : List Nat := []
  starts : Nat := 0
  /-- the threads that wait, in the order in which they came to their gates -/
  waiting : List (Waiting π) := []
  deriving Repr, Inhabited

namespace Workers

variable {π : Type}

/-- The channel of the log that a group uses of its own. -/
def ownChannel : String := "tagserver.core.spawner"

/-- What a thread fails with that cannot be started. -/
def noThread : Fault := .runtime [.text "can't start new thread"]

/-- Takes over a stretch of work that a thread has done. -/
def settle (w : Workers π) (name : String) (work : Work π) : List Event × Workers π :=
  match work.stop with
  | .waits gate rest => (work.events, { w with waiting := w.waiting ++ [⟨name, gate, rest⟩] })
  | .ended none => (work.events, { w with capacity := w.capacity.leave })
  | .ended (some f) =>
    (work.events ++ [.log w.channel .error (name ++ " failed: " ++ f.message) (some f)],
      { w with capacity := w.capacity.fault.leave })

/-- The name of a thread: its own, or else its number. -/
def threadName (name : Value) (number : Nat) : String :=
  if name.isTrue then name.display else "session-" ++ toString number

/-- Starts a thread, or tells that there is no place for it. The work is told how many threads have
started before. -/
def spawn (w : Workers π) (name : Value) (work : Nat → Work π) : Run Bool × Workers π :=
  match w.capacity.isFull with
  | .error f => (Run.fail f, w)
  | .ok true => (pure false, { w with capacity := w.capacity.refuse })
  | .ok false =>
    let c := w.capacity.enter
    let name := threadName name c.admitted
    if w.badStarts.contains w.starts then
      (⟨[.thread name], .error noThread⟩, { w with capacity := c.leave, starts := w.starts + 1 })
    else
      let (events, w) :=
        { w with capacity := c.start, starts := w.starts + 1 }.settle name (work c.started)
      (⟨.thread name :: events, .ok true⟩, w)

/-- Lets threads go on, one after another. -/
def goOn (w : Workers π) (resume : π → Work π) : List (Waiting π) → List Event × Workers π
  | [] => ([], w)
  | p :: rest =>
    let (events, w) := w.settle p.name (resume p.rest)
    let (others, w) := goOn w resume rest
    (events ++ others, w)

/-- Opens a gate for the threads that wait there. -/
def release (w : Workers π) (gate : String) (resume : π → Work π) : List Event × Workers π :=
  { w with waiting := w.waiting.filter (·.gate ≠ gate) }.goOn resume
    (w.waiting.filter (·.gate = gate))

end Workers

end LineTagger
