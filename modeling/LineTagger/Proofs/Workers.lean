import LineTagger.Proofs.Trace
import LineTagger.Workers

/-!
What a group of threads does when one is started and when a gate opens: what is shown on sockets, and
who waits afterwards.
-/

namespace LineTagger

variable {π : Type}

/-- The thread that waits after a stretch of work, if it does. -/
def WorkStop.waiting? (name : String) : WorkStop π → Option (Waiting π)
  | .waits gate rest => some ⟨name, gate, rest⟩
  | .ended _ => none

/-- The thread that waits after a waiting thread has gone on, if it does. -/
def Waiting.next? (resume : π → Work π) (p : Waiting π) : Option (Waiting π) :=
  (resume p.rest).stop.waiting? p.name

namespace Workers

variable (w : Workers π) (name : String) (work : Work π) (resume : π → Work π) (gate : String)

/-- Groups under one limit, in which the same starts of threads fail. -/
structure Alike (v w : Workers π) : Prop where
  limit : v.capacity.limit = w.capacity.limit
  badStarts : v.badStarts = w.badStarts

theorem Alike.trans {u v w : Workers π} (h : Alike u v) (h' : Alike v w) : Alike u w :=
  ⟨h.limit.trans h'.limit, h.badStarts.trans h'.badStarts⟩

theorem sockets_settle : sockets (w.settle name work).1 = sockets work.events := by
  obtain ⟨es, stop⟩ := work
  cases stop with
  | waits gate rest => rfl
  | ended escaped =>
    cases escaped with
    | none => rfl
    | some f => exact (sockets_append es _).trans (List.append_nil _)

theorem waiting_settle :
    (w.settle name work).2.waiting = w.waiting ++ (work.stop.waiting? name).toList := by
  obtain ⟨es, stop⟩ := work
  cases stop with
  | waits gate rest => rfl
  | ended escaped => cases escaped <;> exact (List.append_nil _).symm

theorem alike_settle : Alike (w.settle name work).2 w := by
  obtain ⟨es, stop⟩ := work
  cases stop with
  | waits gate rest => exact ⟨rfl, rfl⟩
  | ended escaped => cases escaped <;> exact ⟨rfl, rfl⟩

/-- Threads go on one after another, each as if it were alone. -/
theorem goOn_eq (ps : List (Waiting π)) :
    sockets (w.goOn resume ps).1 = ps.flatMap (fun p => sockets (resume p.rest).events) ∧
      (w.goOn resume ps).2.waiting =
        w.waiting ++ ps.filterMap (Waiting.next? resume) ∧
      Alike (w.goOn resume ps).2 w := by
  induction ps generalizing w with
  | nil => exact ⟨rfl, (List.append_nil _).symm, rfl, rfl⟩
  | cons p ps ih =>
    obtain ⟨hsockets, hwaiting, halike⟩ := ih (w.settle p.name (resume p.rest)).2
    refine ⟨?_, ?_, halike.trans (alike_settle w p.name (resume p.rest))⟩
    · rw [goOn, sockets_append, sockets_settle, hsockets, List.flatMap_cons]
    · rw [goOn, hwaiting, waiting_settle, List.append_assoc, ← Waiting.next?]
      cases hnext : p.next? resume with
      | none => rw [List.filterMap_cons_none hnext, Option.toList_none, List.nil_append]
      | some q => rw [List.filterMap_cons_some hnext, Option.toList_some, List.singleton_append]

/-- Those who wait at a gate go on when it opens, and those who wait elsewhere stay. -/
theorem release_eq :
    sockets (w.release gate resume).1 =
        (w.waiting.filter (·.gate = gate)).flatMap (fun p => sockets (resume p.rest).events) ∧
      (w.release gate resume).2.waiting = w.waiting.filter (·.gate ≠ gate) ++
        (w.waiting.filter (·.gate = gate)).filterMap (Waiting.next? resume) ∧
      Alike (w.release gate resume).2 w := by
  obtain ⟨hsockets, hwaiting, halike⟩ := goOn_eq { w with waiting := w.waiting.filter (·.gate ≠ gate) }
    resume (w.waiting.filter (·.gate = gate))
  exact ⟨hsockets, hwaiting, halike.limit, halike.badStarts⟩

inductive Spawns (w : Workers π) (name : Value) (work : Nat → Work π) :
    Run Bool × Workers π → Prop where
  | incomparable {f : Fault} (h : w.capacity.isFull = .error f) : Spawns w name work (Run.fail f, w)
  | refused (h : w.capacity.isFull = .ok true) :
      Spawns w name work (pure false, { w with capacity := w.capacity.refuse })
  | unstarted (h : w.capacity.isFull = .ok false) (hbad : w.badStarts.contains w.starts = true) :
      Spawns w name work (⟨[.thread (threadName name w.capacity.enter.admitted)], .error noThread⟩,
        { w with capacity := w.capacity.enter.leave, starts := w.starts + 1 })
  | started {v : Workers π} (h : w.capacity.isFull = .ok false)
      (hgood : w.badStarts.contains w.starts = false)
      (hv : v = { w with capacity := w.capacity.enter.start, starts := w.starts + 1 })
      {n : String} {k : Nat} :
      Spawns w name work (⟨.thread n :: (v.settle n (work k)).1, .ok true⟩, (v.settle n (work k)).2)

theorem spawns (name : Value) (work : Nat → Work π) :
    Spawns w name work (w.spawn name work) := by
  rw [spawn]
  cases hfull : w.capacity.isFull with
  | error f => exact .incomparable hfull
  | ok full =>
    cases full with
    | true => exact .refused hfull
    | false =>
      dsimp only
      cases hbad : w.badStarts.contains w.starts with
      | true => exact .unstarted hfull hbad
      | false => exact .started hfull hbad rfl

theorem alike_spawn (name : Value) (work : Nat → Work π) : Alike (w.spawn name work).2 w := by
  have hspawns := w.spawns name work
  generalize w.spawn name work = run at hspawns
  cases hspawns with
  | incomparable | refused | unstarted => exact ⟨rfl, rfl⟩
  | started _ _ hv =>
    subst hv
    exact (alike_settle _ _ _).trans ⟨rfl, rfl⟩

/-- A thread is refused just when no place is left. -/
theorem refused_iff (name : Value) (work : Nat → Work π) :
    (w.spawn name work).1.result = .ok false ↔ w.capacity.isFull = .ok true := by
  have hspawns := w.spawns name work
  generalize w.spawn name work = run at hspawns
  cases hspawns with
  | incomparable hfull => simp [hfull, Run.fail]
  | refused hfull => simp [hfull]
  | unstarted hfull => simp [hfull]
  | started hfull => simp [hfull]

theorem isFull_of_started {name : Value} {work : Nat → Work π}
    (h : (w.spawn name work).1.result = .ok true) : w.capacity.isFull = .ok false := by
  have hspawns := w.spawns name work
  generalize w.spawn name work = run at h hspawns
  cases hspawns with
  | incomparable => cases h
  | refused => cases h
  | unstarted => cases h
  | started hfull => exact hfull

/-- How many threads have not ended whenever one of those goes on that go on one after another. -/
def alive (w : Workers π) (resume : π → Work π) : List (Waiting π) → List Nat
  | [] => []
  | p :: rest =>
    (w.waiting.length + (rest.length + 1)) :: alive (w.settle p.name (resume p.rest)).2 resume rest

end Workers

end LineTagger
