import LineTagger.Workers
import Mathlib.Logic.Relation

/-!
The counters of a group of threads under any interleaving. Calls that start threads are kept in a
ledger, each with where it stands; a step admits one more call or moves one of them on by one section
that nothing else can divide. In every ledger that can be reached, each counter is the number of calls
that have passed the section which counts them.
-/

namespace LineTagger.Capacity

/-- Where a thread stands. That its target raised is counted before its place is taken back. -/
inductive Thread where
  | running
  | raised
  | leaving (raised : Bool)
  | ended (raised : Bool)
  deriving DecidableEq, Repr

namespace Thread

def hasEnded : Thread → Bool
  | ended _ => true
  | _ => false

def hasRaised : Thread → Bool
  | running => false
  | raised => true
  | leaving r | ended r => r

/-- Whether it is counted that the target has raised. -/
def isFaultCounted : Thread → Bool
  | running | raised => false
  | leaving r | ended r => r

end Thread

/-- Where a call that starts a thread stands. The thread may be anywhere in its life when the call
counts it as started. -/
inductive Call where
  | refused
  | admitted
  /-- the thread could not be started, and the place is still held -/
  | unstarted
  /-- the thread could not be started, and the place is given back -/
  | withdrawn
  | started (counted : Bool) (thread : Thread)
  deriving DecidableEq, Repr

namespace Call

/-- What a call returned or raised, once it did. -/
def result? : Call → Option (Except Fault Bool)
  | refused => some (.ok false)
  | withdrawn => some (.error Workers.noThread)
  | started true _ => some (.ok true)
  | started false _ | admitted | unstarted => none

def isRefused : Call → Bool
  | refused => true
  | _ => false

def isAdmitted (a : Call) : Bool := !a.isRefused

def isWithdrawn : Call → Bool
  | withdrawn => true
  | _ => false

def isStarted : Call → Bool
  | started .. => true
  | _ => false

/-- Whether a call has counted its thread as started. -/
def isCounted : Call → Bool
  | started counted _ => counted
  | _ => false

/-- Whether the thread of a call, if it has one, has a property. -/
def thread (p : Thread → Bool) : Call → Bool
  | started _ t => p t
  | _ => false

def holdsPlace : Call → Bool
  | refused | withdrawn => false
  | admitted | unstarted => true
  | started _ t => !t.hasEnded

/-- Whether a call has returned or raised, and its thread, if it has one, has ended. -/
def isSettled : Call → Bool
  | refused | withdrawn => true
  | admitted | unstarted => false
  | started counted t => counted && t.hasEnded

end Call

/-- A call comes: it is refused, or gets a place. -/
inductive Admits (c : Capacity) : Capacity → Call → Prop where
  | refuses (h : c.isFull = .ok true) : Admits c c.refuse .refused
  | enters (h : c.isFull = .ok false) : Admits c c.enter .admitted

/-- A call or its thread moves on by one section. -/
inductive Move (c : Capacity) : Call → Capacity → Call → Prop where
  | failsToStart : Move c .admitted c .unstarted
  | givesBack : Move c .unstarted c.leave .withdrawn
  | starts : Move c .admitted c (.started false .running)
  | counts {t : Thread} : Move c (.started false t) c.start (.started true t)
  | returns {b : Bool} : Move c (.started b .running) c (.started b (.leaving false))
  | raises {b : Bool} : Move c (.started b .running) c (.started b .raised)
  | countsFault {b : Bool} : Move c (.started b .raised) c.fault (.started b (.leaving true))
  | leaves {b r : Bool} : Move c (.started b (.leaving r)) c.leave (.started b (.ended r))

/-- The counters, and the calls in the order in which they came. -/
structure Ledger where
  capacity : Capacity
  calls : List Call := []

namespace Ledger

def blank (limit : Value) : Ledger := { capacity := { limit := limit } }

inductive Step (l : Ledger) : Ledger → Prop where
  | call {c : Capacity} {a : Call} (h : Admits l.capacity c a) : Step l ⟨c, l.calls ++ [a]⟩
  | move {k : Nat} {a b : Call} {c : Capacity} (h : l.calls[k]? = some a)
      (hmove : Move l.capacity a c b) : Step l ⟨c, l.calls.set k b⟩

/-- Any number of steps, of any calls in any order. -/
abbrev Reaches : Ledger → Ledger → Prop := Relation.ReflTransGen Step

end Ledger

/-- The limits under which a call is admitted or refused, and never fails for the limit itself. -/
def Countable (limit : Value) : Prop := limit = .null ∨ ∃ n : Int, 1 ≤ n ∧ limit = .int n

theorem isFull_null {c : Capacity} (h : c.limit = .null) : c.isFull = .ok false := by
  rw [isFull, h]
  rfl

theorem isFull_int {c : Capacity} {n : Int} (h : c.limit = .int n) :
    c.isFull = .ok (decide (n ≤ c.active)) := by
  rw [isFull, h]
  rfl

theorem exists_isFull {c : Capacity} (h : Countable c.limit) : ∃ full, c.isFull = .ok full := by
  obtain h | ⟨n, -, h⟩ := h
  · exact ⟨_, isFull_null h⟩
  · exact ⟨_, isFull_int h⟩

theorem Admits.shift {c c' : Capacity} {a : Call} (h : Admits c c' a) :
    c'.active = c.active + a.holdsPlace.toNat ∧ c'.admitted = c.admitted + a.isAdmitted.toNat ∧
      c'.started = c.started + a.isCounted.toNat ∧ c'.rejected = c.rejected + a.isRefused.toNat ∧
      c'.failed = c.failed + (a.thread Thread.isFaultCounted).toNat := by
  cases h <;> exact ⟨by simp [refuse, enter, Call.holdsPlace], rfl, rfl, rfl, rfl⟩

/-- A section changes each counter by as much as the call counts for it before and after. -/
theorem Move.shift {c c' : Capacity} {a b : Call} (h : Move c a c' b) :
    c'.active + a.holdsPlace.toNat = c.active + b.holdsPlace.toNat ∧
      c'.admitted + a.isAdmitted.toNat = c.admitted + b.isAdmitted.toNat ∧
      c'.started + a.isCounted.toNat = c.started + b.isCounted.toNat ∧
      c'.rejected + a.isRefused.toNat = c.rejected + b.isRefused.toNat ∧
      c'.failed + (a.thread Thread.isFaultCounted).toNat =
        c.failed + (b.thread Thread.isFaultCounted).toNat := by
  cases h <;> refine ⟨?_, rfl, rfl, rfl, rfl⟩ <;>
    simp [start, leave, fault, Call.holdsPlace, Thread.hasEnded]

theorem Admits.limit_eq {c c' : Capacity} {a : Call} (h : Admits c c' a) : c'.limit = c.limit := by
  cases h <;> rfl

theorem Move.limit_eq {c c' : Capacity} {a b : Call} (h : Move c a c' b) : c'.limit = c.limit := by
  cases h <;> rfl

theorem Move.active_le {c c' : Capacity} {a b : Call} (h : Move c a c' b) : c'.active ≤ c.active := by
  cases h with
  | givesBack | leaves =>
    show c.active - 1 ≤ c.active
    omega
  | _ => exact Int.le_refl _

theorem Admits.active_le {c c' : Capacity} {a : Call} (h : Admits c c' a) {n : Int}
    (hlimit : c.limit = .int n) (hactive : c.active ≤ n) : c'.active ≤ n := by
  cases h with
  | refuses => exact hactive
  | enters hfull =>
    rw [isFull_int hlimit] at hfull
    have hless : c.active < n := by simpa using hfull
    show c.active + 1 ≤ n
    omega

theorem ite_eq_toNat (b : Bool) : (if b = true then 1 else 0) = b.toNat := by
  cases b <;> rfl

theorem countP_set {α : Type} (p : α → Bool) {xs : List α} {k : Nat} {a : α} (h : xs[k]? = some a)
    (b : α) : (xs.set k b).countP p + (p a).toNat = xs.countP p + (p b).toNat := by
  obtain ⟨hk, rfl⟩ := List.getElem?_eq_some_iff.1 h
  have hpos : p xs[k] = true → 0 < xs.countP p := fun hp =>
    List.countP_pos_iff.2 ⟨_, List.getElem_mem hk, hp⟩
  rw [List.countP_set hk, ite_eq_toNat, ite_eq_toNat]
  cases ha : p xs[k] with
  | true =>
    have hcount := hpos ha
    simp only [Bool.toNat_true]
    omega
  | false => simp

/-- A counter that was the number of elements with a property still is, when it changes with the one
element that is replaced. -/
theorem countP_moved {α : Type} {p : α → Bool} {xs : List α} {k : Nat} {a b : α}
    (h : xs[k]? = some a) {n m : Nat} (hn : n = xs.countP p)
    (hshift : m + (p a).toNat = n + (p b).toNat) : m = (xs.set k b).countP p := by
  have hset := countP_set p h b
  omega

theorem countP_concat {α : Type} (p : α → Bool) (xs : List α) (a : α) :
    (xs ++ [a]).countP p = xs.countP p + (p a).toNat := by
  rw [List.countP_append, List.countP_singleton]
  cases p a <;> rfl

theorem countP_add {α : Type} {p q r : α → Bool} (h : ∀ a, (p a).toNat = (q a).toNat + (r a).toNat)
    (xs : List α) : xs.countP p = xs.countP q + xs.countP r := by
  induction xs with
  | nil => rfl
  | cons a xs ih =>
    have ha := h a
    rw [← List.singleton_append, List.countP_append, List.countP_append, List.countP_append, ih]
    simp only [List.countP_singleton, ite_eq_toNat]
    omega

namespace Ledger

/-- Counters that count calls, and stay within the limit. -/
structure Balanced (limit : Value) (l : Ledger) : Prop where
  limit_eq : l.capacity.limit = limit
  active_le : ∀ n : Int, limit = .int n → l.capacity.active ≤ n
  active : l.capacity.active = l.calls.countP Call.holdsPlace
  admitted : l.capacity.admitted = l.calls.countP Call.isAdmitted
  started : l.capacity.started = l.calls.countP Call.isCounted
  rejected : l.capacity.rejected = l.calls.countP Call.isRefused
  failed : l.capacity.failed = l.calls.countP (Call.thread Thread.isFaultCounted)

variable {limit : Value} {l m : Ledger}

theorem balanced_blank (h : Countable limit) : Balanced limit (blank limit) := by
  refine ⟨rfl, ?_, rfl, rfl, rfl, rfl, rfl⟩
  rintro n rfl
  obtain h | ⟨m, hm, h⟩ := h
  · cases h
  · cases h
    show (0 : Int) ≤ n
    omega

theorem Balanced.step (h : Balanced limit l) (hstep : Step l m) : Balanced limit m := by
  -- one call changes, and each counter by what that call counts for it
  cases hstep with
  | call hadmits =>
    obtain ⟨hactive, hadmitted, hstarted, hrejected, hfailed⟩ := hadmits.shift
    refine ⟨hadmits.limit_eq.trans h.limit_eq, ?_, ?_, ?_, ?_, ?_, ?_⟩
    · intro n hn
      exact hadmits.active_le (h.limit_eq.trans hn) (h.active_le n hn)
    · rw [countP_concat, hactive, h.active, Int.natCast_add]
    · rw [countP_concat, hadmitted, h.admitted]
    · rw [countP_concat, hstarted, h.started]
    · rw [countP_concat, hrejected, h.rejected]
    · rw [countP_concat, hfailed, h.failed]
  | @move k a b c hk hmove =>
    obtain ⟨hactive, hadmitted, hstarted, hrejected, hfailed⟩ := hmove.shift
    refine ⟨hmove.limit_eq.trans h.limit_eq, ?_, ?_, countP_moved hk h.admitted hadmitted,
      countP_moved hk h.started hstarted, countP_moved hk h.rejected hrejected,
      countP_moved hk h.failed hfailed⟩
    · intro n hn
      exact Int.le_trans hmove.active_le (h.active_le n hn)
    · have hset := countP_set Call.holdsPlace hk b
      have hbefore := h.active
      dsimp only
      omega

theorem Balanced.reaches (h : Balanced limit l) (hreaches : Reaches l m) : Balanced limit m := by
  induction hreaches with
  | refl => exact h
  | tail _ hstep ih => exact ih.step hstep

/-- A call stays where it is in the ledger, and whether it was refused never changes. -/
theorem refused_iff_of_step {k : Nat} {a : Call} (h : l.calls[k]? = some a) (hstep : Step l m) :
    ∃ b, m.calls[k]? = some b ∧ (b = .refused ↔ a = .refused) := by
  have hlength := (List.getElem?_eq_some_iff.1 h).1
  cases hstep with
  | call => exact ⟨a, by rw [List.getElem?_append_left hlength, h], Iff.rfl⟩
  | @move j a' b c hj hmove =>
    by_cases hjk : j = k
    · subst hjk
      have hsame : a' = a := Option.some.inj (hj.symm.trans h)
      subst hsame
      refine ⟨b, List.getElem?_set_self hlength, ?_⟩
      cases hmove <;> simp
    · exact ⟨a, by rw [List.getElem?_set_ne hjk, h], Iff.rfl⟩

theorem refused_iff_of_reaches {k : Nat} {a : Call} (h : l.calls[k]? = some a)
    (hreaches : Reaches l m) : ∃ b, m.calls[k]? = some b ∧ (b = .refused ↔ a = .refused) := by
  induction hreaches with
  | refl => exact ⟨a, h, Iff.rfl⟩
  | tail _ hstep ih =>
    obtain ⟨b, hb, hba⟩ := ih
    obtain ⟨c, hc, hcb⟩ := refused_iff_of_step hb hstep
    exact ⟨c, hc, hcb.trans hba⟩

/-- Calls that were admitted hold a place, could not start their thread, or have seen it end. -/
theorem countP_isAdmitted (calls : List Call) :
    calls.countP Call.isAdmitted = calls.countP Call.holdsPlace +
      (calls.countP Call.isWithdrawn + calls.countP (Call.thread Thread.hasEnded)) := by
  have hgone := countP_add (p := fun a => a.isWithdrawn || a.thread Thread.hasEnded)
    (q := Call.isWithdrawn) (r := Call.thread Thread.hasEnded)
    (by rintro (_ | _ | _ | _ | _) <;> simp [Call.isWithdrawn, Call.thread]) calls
  rw [← hgone]
  refine countP_add ?_ calls
  rintro (_ | _ | _ | _ | ⟨_, t⟩)
  case started => cases t <;> rfl
  all_goals rfl

theorem holdsPlace_of_isSettled {a : Call} (h : a.isSettled = true) : a.holdsPlace = false := by
  cases a <;> simp_all [Call.isSettled, Call.holdsPlace]

theorem countP_holdsPlace_of_settled {calls : List Call} (h : ∀ a ∈ calls, a.isSettled = true) :
    calls.countP Call.holdsPlace = 0 := by
  rw [List.countP_eq_zero]
  intro a ha
  rw [holdsPlace_of_isSettled (h a ha)]
  exact Bool.false_ne_true

theorem countP_started_of_settled {calls : List Call} (h : ∀ a ∈ calls, a.isSettled = true) :
    calls.countP Call.isCounted = calls.countP Call.isStarted ∧
      calls.countP (Call.thread Thread.hasEnded) = calls.countP Call.isStarted := by
  constructor <;>
  · apply List.countP_congr
    intro a ha
    have hsettled := h a ha
    cases a <;> simp_all [Call.isSettled, Call.isCounted, Call.isStarted, Call.thread]

theorem countP_raised_of_settled {calls : List Call} (h : ∀ a ∈ calls, a.isSettled = true) :
    calls.countP (Call.thread Thread.isFaultCounted) = calls.countP (Call.thread Thread.hasRaised) := by
  apply List.countP_congr
  intro a ha
  have hsettled := h a ha
  cases a with
  | started counted t =>
    cases t <;> simp_all [Call.isSettled, Call.thread, Thread.hasEnded, Thread.isFaultCounted,
      Thread.hasRaised]
  | _ => simp [Call.thread]

end Ledger

theorem Call.result?_eq_false_iff {a : Call} : a.result? = some (.ok false) ↔ a = .refused := by
  cases a with
  | started counted t => cases counted <;> simp [result?]
  | _ => simp [result?]

theorem Call.result?_eq_noThread_iff {a : Call} :
    a.result? = some (.error Workers.noThread) ↔ a = .withdrawn := by
  cases a with
  | started counted t => cases counted <;> simp [result?]
  | _ => simp [result?]

/-- What the counters tell of the calls, what the next call comes to, and what becomes of a call that
was refused or could not start its thread. -/
structure Accounted (limit : Value) (l : Ledger) : Prop where
  active_eq : l.capacity.active = (l.calls.countP Call.isAdmitted : Int) -
    l.calls.countP Call.isWithdrawn - l.calls.countP (Call.thread Thread.hasEnded)
  active_nonneg : 0 ≤ l.capacity.active
  active_le : ∀ n : Int, limit = .int n → l.capacity.active ≤ n
  answers : ∃ c a, Admits l.capacity c a
  refuses_iff : ∀ c a, Admits l.capacity c a →
    (a.result? = some (.ok false) ↔ limit = .int l.capacity.active)
  refuses : ∀ c a, Admits l.capacity c a → a.result? = some (.ok false) →
    c = { l.capacity with rejected := l.capacity.rejected + 1 }
  stays_refused : ∀ (k : Nat) (a : Call) (m : Ledger), l.calls[k]? = some a → Ledger.Reaches l m →
    ∃ b, m.calls[k]? = some b ∧ (b.result? = some (.ok false) ↔ a.result? = some (.ok false)) ∧
      (b.result? = some (.ok false) → b.isStarted = false)
  withdraws_iff : ∀ c b, Move l.capacity .unstarted c b ↔
    b.result? = some (.error Workers.noThread) ∧
      c = { l.capacity with active := l.capacity.active - 1 }
  settled : (∀ a ∈ l.calls, a.isSettled = true) →
    l.capacity.active = 0 ∧
    l.capacity.started = l.calls.countP Call.isStarted ∧
    l.capacity.failed = l.calls.countP (Call.thread Thread.hasRaised) ∧
    l.capacity.rejected = l.calls.countP Call.isRefused ∧
    l.capacity.started + l.capacity.rejected + l.calls.countP Call.isWithdrawn = l.calls.length

namespace Ledger

variable {limit : Value} {l m : Ledger}

theorem Balanced.refuses_iff (h : Balanced limit l) (hlimit : Countable limit) {c : Capacity}
    {a : Call} (hadmits : Admits l.capacity c a) : a = .refused ↔ limit = .int l.capacity.active := by
  obtain hnull | ⟨n, -, hn⟩ := hlimit
  · have hfull := isFull_null (h.limit_eq.trans hnull)
    cases hadmits with
    | refuses hrefuses =>
      rw [hfull] at hrefuses
      cases hrefuses
    | enters => simp [hnull]
  · have hfull := isFull_int (h.limit_eq.trans hn)
    have hle := h.active_le n hn
    rw [hn, Value.int.injEq]
    cases hadmits with
    | refuses hrefuses =>
      rw [hfull] at hrefuses
      have hge : n ≤ l.capacity.active := by simpa using hrefuses
      exact ⟨fun _ => Int.le_antisymm hge hle, fun _ => rfl⟩
    | enters henters =>
      rw [hfull] at henters
      have hless : l.capacity.active < n := by simpa using henters
      refine ⟨fun heq => Call.noConfusion heq, fun heq => ?_⟩
      omega

theorem Balanced.settled (h : Balanced limit l) (hsettled : ∀ a ∈ l.calls, a.isSettled = true) :
    l.capacity.active = 0 ∧
    l.capacity.started = l.calls.countP Call.isStarted ∧
    l.capacity.failed = l.calls.countP (Call.thread Thread.hasRaised) ∧
    l.capacity.rejected = l.calls.countP Call.isRefused ∧
    l.capacity.started + l.capacity.rejected + l.calls.countP Call.isWithdrawn = l.calls.length := by
  have hplaces := countP_holdsPlace_of_settled hsettled
  obtain ⟨hcounted, hended⟩ := countP_started_of_settled hsettled
  have hraised := countP_raised_of_settled hsettled
  have hadmitted := countP_isAdmitted l.calls
  have hall : l.calls.length = l.calls.countP Call.isRefused + l.calls.countP Call.isAdmitted := by
    rw [List.length_eq_countP_add_countP Call.isRefused]
    simp only [Bool.not_eq_true, Bool.decide_eq_false]
    rfl
  have hactive := h.active
  have hstarted := h.started
  have hrejected := h.rejected
  refine ⟨?_, hstarted.trans hcounted, h.failed.trans hraised, hrejected, ?_⟩
  · rw [hactive, hplaces]
    rfl
  · omega

/-- Whatever the order of the sections of all calls and their threads, the counters account for
them. -/
theorem accounted_of_reaches (hlimit : Countable limit) (hreaches : Reaches (blank limit) l) :
    Accounted limit l := by
  have h : Balanced limit l := (balanced_blank hlimit).reaches hreaches
  have hactive := h.active
  have hadmitted := countP_isAdmitted l.calls
  refine ⟨?_, ?_, h.active_le, ?_, ?_, ?_, ?_, ?_, h.settled⟩
  · omega
  · omega
  · obtain ⟨full, hfull⟩ := exists_isFull (c := l.capacity) (h.limit_eq ▸ hlimit)
    cases full with
    | true => exact ⟨_, _, .refuses hfull⟩
    | false => exact ⟨_, _, .enters hfull⟩
  · intro c a hadmits
    rw [Call.result?_eq_false_iff]
    exact h.refuses_iff hlimit hadmits
  · intro c a hadmits ha
    rw [Call.result?_eq_false_iff] at ha
    cases hadmits with
    | refuses => rfl
    | enters => cases ha
  · intro k a m hk hlater
    obtain ⟨b, hb, hba⟩ := refused_iff_of_reaches hk hlater
    rw [Call.result?_eq_false_iff, ← hba]
    refine ⟨b, hb, Call.result?_eq_false_iff, ?_⟩
    rw [Call.result?_eq_false_iff]
    rintro rfl
    rfl
  · intro c b
    rw [Call.result?_eq_noThread_iff]
    constructor
    · rintro ⟨⟩
      exact ⟨rfl, rfl⟩
    · rintro ⟨rfl, rfl⟩
      exact .givesBack

/-- Of two places one is taken, and its thread has ended before the call has counted it. -/
theorem accounted_of_reaches_uncounted :
    let l : Ledger := ⟨{ limit := .int 2, admitted := 1 }, [.started false (.ended false)]⟩
    Countable (.int 2) ∧ Reaches (blank (.int 2)) l ∧ Accounted (.int 2) l := by
  intro l
  have hlimit : Countable (.int 2) := .inr ⟨2, by decide, rfl⟩
  have hadmitted : Reaches (blank (.int 2)) ⟨_, [.admitted]⟩ := .single (.call (.enters rfl))
  have hrunning : Reaches (blank (.int 2)) ⟨_, [.started false .running]⟩ :=
    hadmitted.tail (.move (k := 0) rfl .starts)
  have hleaving : Reaches (blank (.int 2)) ⟨_, [.started false (.leaving false)]⟩ :=
    hrunning.tail (.move (k := 0) rfl .returns)
  have hreaches : Reaches (blank (.int 2)) l := hleaving.tail (.move (k := 0) rfl .leaves)
  exact ⟨hlimit, hreaches, accounted_of_reaches hlimit hreaches⟩

end Ledger

end LineTagger.Capacity
