import LineTagger.Proofs.Capacity.Accounting
import LineTagger.Proofs.Workers

/-!
Groups of threads and their ledgers. Starting a thread and opening a gate are steps of a ledger, so the
counters of a group account for its threads: the places that are taken are those of the threads that
wait, and of those that are going on.
-/

namespace LineTagger

open Capacity

variable {π : Type} {w : Workers π} {l m : Ledger} {going : Nat} {limit : Value}

namespace Capacity.Ledger

variable {k : Nat} {a b : Call} {c c' : Capacity}

theorem Reaches.move (h : Reaches l ⟨c, m.calls.set k a⟩) (hk : k < m.calls.length)
    (hmove : Move c a c' b) : Reaches l ⟨c', m.calls.set k b⟩ := by
  have hcall : (m.calls.set k a)[k]? = some a := List.getElem?_set_self hk
  have hstep : Step ⟨c, m.calls.set k a⟩ ⟨c', (m.calls.set k a).set k b⟩ := .move hcall hmove
  rw [List.set_set] at hstep
  exact h.tail hstep

theorem reaches_self (hk : l.calls[k]? = some a) : Reaches l ⟨l.capacity, l.calls.set k a⟩ := by
  obtain ⟨hlength, rfl⟩ := List.getElem?_eq_some_iff.1 hk
  rw [List.set_getElem_self]

theorem reaches_ended (hk : l.calls[k]? = some (.started true .running)) :
    Reaches l ⟨l.capacity.leave, l.calls.set k (.started true (.ended false))⟩ := by
  have hlength := (List.getElem?_eq_some_iff.1 hk).1
  exact ((reaches_self hk).move hlength .returns).move hlength .leaves

theorem reaches_raised (hk : l.calls[k]? = some (.started true .running)) :
    Reaches l ⟨l.capacity.fault.leave, l.calls.set k (.started true (.ended true))⟩ := by
  have hlength := (List.getElem?_eq_some_iff.1 hk).1
  exact (((reaches_self hk).move hlength .raises).move hlength .countsFault).move hlength .leaves

theorem reaches_admitted (hfull : l.capacity.isFull = .ok false) :
    Reaches l ⟨l.capacity.enter, (l.calls ++ [a]).set l.calls.length .admitted⟩ := by
  have hset : (l.calls ++ [a]).set l.calls.length .admitted = l.calls ++ [.admitted] := by simp
  rw [hset]
  exact .single (.call (.enters hfull))

theorem reaches_withdrawn (hfull : l.capacity.isFull = .ok false) :
    Reaches l ⟨l.capacity.enter.leave, l.calls ++ [.withdrawn]⟩ := by
  have hlength : l.calls.length < (l.calls ++ [Call.withdrawn]).length := by simp
  have hfails := (reaches_admitted hfull).move (m := ⟨l.capacity, l.calls ++ [.withdrawn]⟩) hlength
    .failsToStart
  have hreaches := hfails.move hlength .givesBack
  simpa using hreaches

theorem reaches_started (hfull : l.capacity.isFull = .ok false) :
    Reaches l ⟨l.capacity.enter.start, l.calls ++ [.started true .running]⟩ := by
  have hlength : l.calls.length < (l.calls ++ [Call.admitted]).length := by simp
  have hstarts := (reaches_admitted hfull).move (m := ⟨l.capacity, l.calls ++ [.admitted]⟩) hlength
    .starts
  have hreaches := hstarts.move hlength .counts
  simpa using hreaches

end Capacity.Ledger

namespace Workers

def runs (a : Call) : Bool := a = .started true .running

/-- A ledger of a group, some of whose threads are going on: those and the ones that wait are the ones
that run, and every other call is settled. -/
structure Recorded (going : Nat) (w : Workers π) (l : Ledger) : Prop where
  capacity : l.capacity = w.capacity
  settled : ∀ a ∈ l.calls, runs a = true ∨ a.isSettled = true
  running : l.calls.countP runs = w.waiting.length + going

/-- A group whose ledger was blank at first. -/
def Booked (limit : Value) (going : Nat) (w : Workers π) : Prop :=
  ∃ l, Ledger.Reaches (.blank limit) l ∧ Recorded going w l

namespace Recorded

theorem concat (h : Recorded going w l) {a : Call} (hsettled : a.isSettled = true)
    (hruns : runs a = false) {v : Workers π} (hwaiting : v.waiting = w.waiting) :
    Recorded going v ⟨v.capacity, l.calls ++ [a]⟩ := by
  refine ⟨rfl, ?_, ?_⟩
  · intro b hb
    obtain hb | hb := List.mem_append.1 hb
    · exact h.settled b hb
    · rw [List.mem_singleton.1 hb]
      exact .inr hsettled
  · rw [countP_concat, hruns, h.running, hwaiting]
    rfl

theorem ended (h : Recorded (going + 1) w l) {k : Nat}
    (hk : l.calls[k]? = some (.started true .running)) (raised : Bool) (c : Capacity) :
    Recorded going { w with capacity := c } ⟨c, l.calls.set k (.started true (.ended raised))⟩ := by
  refine ⟨rfl, ?_, ?_⟩
  · intro b hb
    obtain hb | rfl := List.mem_or_eq_of_mem_set hb
    · exact h.settled b hb
    · exact .inr rfl
  · have hset := countP_set runs hk (.started true (.ended raised))
    have hrunning := h.running
    have hbefore : runs (.started true .running) = true := rfl
    have hafter : runs (.started true (.ended raised)) = false := rfl
    rw [hbefore, hafter] at hset
    simp only [Bool.toNat_true, Bool.toNat_false] at hset
    dsimp only
    omega

theorem settle (h : Recorded (going + 1) w l) (name : String) (work : Work π) :
    ∃ m, Ledger.Reaches l m ∧ Recorded going (w.settle name work).2 m := by
  -- some call has a thread that runs, and any of them can stand for the one that stops
  have hsome : 0 < l.calls.countP runs := by
    rw [h.running]
    omega
  obtain ⟨a, ha, hruns⟩ := List.countP_pos_iff.1 hsome
  obtain ⟨k, hk⟩ := List.mem_iff_getElem?.1 ha
  rw [of_decide_eq_true hruns] at hk
  obtain ⟨es, stop⟩ := work
  have hcapacity := h.capacity
  cases stop with
  | waits gate rest =>
    refine ⟨l, .refl, hcapacity, h.settled, ?_⟩
    have hrunning := h.running
    simp only [Workers.settle, List.length_append, List.length_singleton]
    omega
  | ended escaped =>
    cases escaped with
    | none =>
      have hreaches := Ledger.reaches_ended hk
      rw [hcapacity] at hreaches
      exact ⟨_, hreaches, h.ended hk false _⟩
    | some f =>
      have hreaches := Ledger.reaches_raised hk
      rw [hcapacity] at hreaches
      exact ⟨_, hreaches, h.ended hk true _⟩

end Recorded

namespace Booked

theorem settle (h : Booked limit (going + 1) w) (name : String) (work : Work π) :
    Booked limit going (w.settle name work).2 := by
  obtain ⟨l, hreaches, hrecorded⟩ := h
  obtain ⟨m, hlater, hm⟩ := hrecorded.settle name work
  exact ⟨m, hreaches.trans hlater, hm⟩

theorem goOn {resume : π → Work π} {ps : List (Waiting π)} (h : Booked limit (going + ps.length) w) :
    Booked limit going (w.goOn resume ps).2 := by
  induction ps generalizing w with
  | nil => exact h
  | cons p ps ih => exact ih (h.settle p.name (resume p.rest))

/-- Those who wait at a gate that opens are going on. -/
theorem wake (h : Booked limit going w) (gate : String) :
    Booked limit (going + (w.waiting.filter (·.gate = gate)).length)
      { w with waiting := w.waiting.filter (·.gate ≠ gate) } := by
  obtain ⟨l, hreaches, hcapacity, hsettled, hrunning⟩ := h
  refine ⟨l, hreaches, hcapacity, hsettled, ?_⟩
  have hsplit := List.length_eq_countP_add_countP (fun p => decide (p.gate = gate)) (l := w.waiting)
  simp only [List.countP_eq_length_filter, decide_eq_true_eq] at hsplit
  dsimp only [ne_eq]
  omega

theorem release (h : Booked limit going w) (gate : String) (resume : π → Work π) :
    Booked limit going (w.release gate resume).2 := (h.wake gate).goOn

theorem enter (h : Booked limit going w) (hfull : w.capacity.isFull = .ok false) (starts : Nat) :
    Booked limit (going + 1) { w with capacity := w.capacity.enter.start, starts } := by
  obtain ⟨l, hreaches, hrecorded⟩ := h
  rw [← hrecorded.capacity] at hfull
  refine ⟨_, hreaches.trans (Ledger.reaches_started hfull), ?_, ?_, ?_⟩
  · rw [hrecorded.capacity]
  · intro b hb
    obtain hb | hb := List.mem_append.1 hb
    · exact hrecorded.settled b hb
    · rw [List.mem_singleton.1 hb]
      exact .inl rfl
  · have hrunning := hrecorded.running
    have hruns : runs (.started true .running) = true := rfl
    rw [countP_concat, hruns, hrunning]
    rfl

theorem spawn (h : Booked limit going w) (name : Value) (work : Nat → Work π) :
    Booked limit going (w.spawn name work).2 := by
  have hspawns := w.spawns name work
  generalize w.spawn name work = run at hspawns
  cases hspawns with
  | incomparable => exact h
  | refused hfull =>
    obtain ⟨l, hreaches, hrecorded⟩ := h
    have hrefuses := hfull
    rw [← hrecorded.capacity] at hrefuses
    have hlater := hreaches.tail (.call (.refuses hrefuses))
    rw [hrecorded.capacity] at hlater
    exact ⟨_, hlater, hrecorded.concat rfl rfl rfl⟩
  | unstarted hfull =>
    obtain ⟨l, hreaches, hrecorded⟩ := h
    have hwithdraws := hfull
    rw [← hrecorded.capacity] at hwithdraws
    have hlater := hreaches.trans (Ledger.reaches_withdrawn hwithdraws)
    rw [hrecorded.capacity] at hlater
    exact ⟨_, hlater, hrecorded.concat rfl rfl rfl⟩
  | started hfull _ hv =>
    subst hv
    exact (h.enter hfull _).settle _ _

/-- A group without threads, of which nothing was counted yet. -/
theorem fresh (hcapacity : w.capacity = { limit := limit }) (hwaiting : w.waiting = []) :
    Booked limit 0 w := by
  refine ⟨.blank limit, .refl, hcapacity.symm, ?_, ?_⟩
  · intro a ha
    cases ha
  · rw [hwaiting]
    rfl

/-- The places that are taken are those of the threads that wait and of those that are going on, and
they are within the limit. -/
theorem active_eq (h : Booked limit going w) (hlimit : Countable limit) :
    w.capacity.limit = limit ∧ w.capacity.active = w.waiting.length + going ∧
      ∀ n : Int, limit = .int n → (w.waiting.length + going : Int) ≤ n := by
  obtain ⟨l, hreaches, hcapacity, hsettled, hrunning⟩ := h
  have hbalanced := (Ledger.balanced_blank hlimit).reaches hreaches
  have hplaces : l.calls.countP Call.holdsPlace = l.calls.countP runs := by
    apply List.countP_congr
    intro a ha
    obtain hruns | hsettled := hsettled a ha
    · rw [hruns, of_decide_eq_true hruns]
      exact ⟨fun _ => rfl, fun _ => rfl⟩
    · have hplace := Ledger.holdsPlace_of_isSettled hsettled
      have hruns : runs a = false := by
        rw [runs, decide_eq_false_iff_not]
        rintro rfl
        cases hplace
      rw [hplace, hruns]
  have hactive := hbalanced.active
  rw [hplaces, hrunning, hcapacity] at hactive
  refine ⟨hcapacity ▸ hbalanced.limit_eq, by rw [hactive]; rfl, ?_⟩
  intro n hn
  have hle := hbalanced.active_le n hn
  rw [hcapacity, hactive] at hle
  exact hle

/-- Under a limit that is a number, no place is left just when so many threads wait. -/
theorem isFull_eq {n : Int} (h : Booked (.int n) 0 w) (hn : 1 ≤ n) :
    w.capacity.isFull = .ok (decide ((w.waiting.length : Int) = n)) := by
  obtain ⟨hlimit, hactive, hle⟩ := h.active_eq (.inr ⟨n, hn, rfl⟩)
  have hwithin := hle n rfl
  rw [isFull_int hlimit, hactive]
  congr 1
  rw [decide_eq_decide]
  omega

theorem waiting_le {n : Int} (h : Booked (.int n) going w) (hn : 1 ≤ n) :
    (w.waiting.length + going : Int) ≤ n :=
  (h.active_eq (.inr ⟨n, hn, rfl⟩)).2.2 n rfl

theorem alive_le {n : Int} {resume : π → Work π} {ps : List (Waiting π)}
    (h : Booked (.int n) ps.length w) (hn : 1 ≤ n) : ∀ k ∈ w.alive resume ps, (k : Int) ≤ n := by
  induction ps generalizing w with
  | nil =>
    intro k hk
    cases hk
  | cons p ps ih =>
    intro k hk
    obtain rfl | hrest := List.mem_cons.1 hk
    · exact h.waiting_le hn
    · exact ih (h.settle p.name (resume p.rest)) k hrest

end Booked

end Workers

end LineTagger
