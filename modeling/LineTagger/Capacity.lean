import LineTagger.Limit

/-!
How many sessions run, and how many may. Each definition is one step that nothing else can divide;
the steps of different sessions may come in any order.
-/

namespace LineTagger

/-- The counters of a group of sessions. -/
structure Capacity where
  /-- how many sessions may run at a time, if that is limited -/
  limit : Value := .null
  /-- sessions that hold a place -/
  active : Int := 0
  /-- places that were ever given -/
  admitted : Nat := 0
  /-- sessions whose thread started -/
  started : Nat := 0
  /-- sessions for which there was no place -/
  rejected : Nat := 0
  /-- sessions that let a fault escape -/
  failed : Nat := 0
  deriving Repr, Inhabited

namespace Capacity

/-- Whether no place is left. -/
def isFull (c : Capacity) : Except Fault Bool := Limit.isReached c.active c.limit

/-- Gives a place to a session. -/
def enter (c : Capacity) : Capacity :=
  { c with active := c.active + 1, admitted := c.admitted + 1 }

/-- Counts a session for which there is no place. -/
def refuse (c : Capacity) : Capacity := { c with rejected := c.rejected + 1 }

/-- Counts a session whose thread has started. -/
def start (c : Capacity) : Capacity := { c with started := c.started + 1 }

/-- Counts a session that let a fault escape. -/
def fault (c : Capacity) : Capacity := { c with failed := c.failed + 1 }

/-- Takes back the place of a session that has ended, or whose thread could not start. -/
def leave (c : Capacity) : Capacity := { c with active := c.active - 1 }

end Capacity

end LineTagger
