import LineTagger.Proofs.Listener.Binding
import LineTagger.Proofs.Reception.Waits

/-!
The life of a listener: it binds, serves clients, is asked to stop and cleans up, in any order and any
number of times. Whatever the system refuses and whatever escapes from those to whom clients are handed
over, after each of these the signals of the process are as they were, nothing is left open but the one
listening socket that is kept, and a listener that was asked to stop serves nobody any more.
-/

namespace LineTagger

variable {σ τ : Type}

namespace Listener

/-- A listener with which nothing was done yet. -/
structure Unused (l : Listener) : Prop where
  attempts : l.attempts = 0
  held : l.held = none
  ready : l.ready = false
  saved : l.saved = []

/-- Among the events so far every listening socket that was made was closed once, but for the one that is
kept. -/
structure Tended (es : List Event) (l : Listener) : Prop where
  created (n : Nat) : creations n es = if n < l.attempts then 1 else 0
  closed (n : Nat) : closings n es =
    if n < l.attempts ∧ (l.faults n).create = none ∧ l.held ≠ some n then 1 else 0
  held : ∀ n ∈ l.held, n < l.attempts ∧ (l.faults n).create = none

theorem tally_waits {ops : List (Nat × ListenerOp)} (h : ∀ x ∈ ops, x.2.isWait = true) (n : Nat) :
    tally ListenerOp.isCreate n ops = 0 ∧ tally ListenerOp.isClose n ops = 0 :=
  ⟨tally_eq_zero h (by rintro (_ | _) <;> simp [ListenerOp.isWait, ListenerOp.isCreate]) n,
    tally_eq_zero h (by rintro (_ | _) <;> simp [ListenerOp.isWait, ListenerOp.isClose]) n⟩

variable {l : Listener}

variable {es fs : List Event}

theorem Tended.congr (h : Tended es l) {k : Listener} (hfaults : k.faults = l.faults)
    (hattempts : k.attempts = l.attempts) (hheld : k.held = l.held) : Tended es k where
  created n := by rw [h.created, hattempts]
  closed n := by rw [h.closed, hfaults, hattempts, hheld]
  held := by
    rw [hfaults, hattempts, hheld]
    exact h.held

theorem Tended.append_waits (h : Tended es l) (hwaits : ∀ x ∈ listenings fs, x.2.isWait = true) :
    Tended (es ++ fs) l where
  created n := by rw [creations_append, h.created, creations, (tally_waits hwaits n).1, Nat.add_zero]
  closed n := by rw [closings_append, h.closed, closings, (tally_waits hwaits n).2, Nat.add_zero]
  held := h.held

theorem Tended.bind (h : Tended es l) (hsystem : ∀ n, (l.faults n).AllSystem) :
    Tended (es ++ l.bind.1.events) l.bind.2 := by
  -- a socket of the next number is asked for when none is kept, and the counts of no other number change
  have hbinds := l.binds
  obtain ⟨ops, hops⟩ : ∃ ops, listenings l.bind.1.events = ops := ⟨_, rfl⟩
  have hcreates (n : Nat) : creations n (es ++ l.bind.1.events) =
      (if n < l.attempts then 1 else 0) + tally ListenerOp.isCreate n ops := by
    rw [creations_append, h.created, creations, hops]
  have hcloses (n : Nat) : closings n (es ++ l.bind.1.events) =
      (if n < l.attempts ∧ (l.faults n).create = none ∧ l.held ≠ some n then 1 else 0) +
        tally ListenerOp.isClose n ops := by
    rw [closings_append, h.closed, closings, hops]
  rw [hops] at hbinds
  generalize l.bind.2 = k at hbinds ⊢
  cases hbinds with
  | held _ => exact ⟨hcreates, hcloses, h.held⟩
  | @unmade _ f hnone hmakes =>
    have htally := hmakes.tally_eq fun g hg => by rw [(hsystem _).setup g hg, Bool.true_or]
    have hfailed : (Except.error f : Except Fault Unit).isOk = false := rfl
    refine ⟨fun n => ?_, fun n => ?_, by simp⟩
    · rw [hcreates, (htally n).1]
      grind
    · rw [hcloses, (htally n).2, hfailed, hnone]
      grind
  | made hnone hmakes bound =>
    have htally := hmakes.tally_eq fun g hg => by rw [(hsystem _).setup g hg, Bool.true_or]
    have hmade : (Except.ok () : Except Fault Unit).isOk = true := rfl
    refine ⟨fun n => ?_, fun n => ?_, ?_⟩
    · rw [hcreates, (htally n).1]
      grind
    · rw [hcloses, (htally n).2, hmade, hnone]
      grind
    · rintro n ⟨⟩
      cases hmakes with
      | listening hcreate _ _ => exact ⟨Nat.lt_succ_self _, hcreate⟩

theorem Tended.cleanup (h : Tended es l) (hsystem : ∀ n, (l.faults n).AllSystem) :
    Tended (es ++ l.cleanup.1.events) l.cleanup.2 := by
  obtain ⟨hafter, hops⟩ := l.cleanup_eq hsystem
  rw [hafter]
  refine ⟨fun n => ?_, fun n => ?_, by simp⟩
  · have hnone : tally ListenerOp.isCreate n (l.held.toList.map fun n => (n, .close)) = 0 := by
      cases l.held <;> simp [tally, ListenerOp.isCreate]
    rw [creations_append, h.created, creations, hops, hnone]
    rfl
  · rw [closings_append, h.closed, closings, hops]
    have hkept := h.held n
    cases hheld : l.held with
    | none => simp [tally, restoreSignals]
    | some k =>
      rw [hheld] at hkept
      by_cases hk : k = n
      · obtain ⟨hlt, hcreate⟩ := hkept (congrArg some hk)
        simp [tally, ListenerOp.isClose, restoreSignals, hk, hlt, hcreate]
      · simp [tally, ListenerOp.isClose, restoreSignals, hk]

theorem Makes.isWait_eq_false {n : Nat} {ops : List (Nat × ListenerOp)} {result : Except Fault Unit}
    (h : l.Makes n ops result) : ∀ x ∈ ops, x.2.isWait = false := by
  have hsetup {setup : List (Nat × ListenerOp)} (hops : ∀ x ∈ setup, x.2.isSetup = true) :
      ∀ x ∈ setup, x.2.isWait = false := by
    rintro ⟨k, op⟩ hx
    have hop := hops _ hx
    cases op <;> simp_all [ListenerOp.isSetup, ListenerOp.isWait]
  cases h with
  | uncreated _ => simp [ListenerOp.isWait]
  | givenUp _ _ _ hops => simpa [or_imp, forall_and, ListenerOp.isWait] using hsetup hops
  | leftOpen _ _ _ hops => simpa [ListenerOp.isWait] using hsetup hops
  | listening _ _ hops => simpa [ListenerOp.isWait] using hsetup hops

theorem waits_bind (l : Listener) : waits l.bind.1.events = 0 := by
  have hbinds := l.binds
  rw [waits, List.countP_eq_zero]
  generalize listenings l.bind.1.events = ops, l.bind.2 = k at hbinds ⊢
  cases hbinds with
  | held _ => simp
  | unmade _ hmakes => simpa using hmakes.isWait_eq_false
  | made _ hmakes _ => simpa using hmakes.isWait_eq_false

theorem waits_cleanup (hsystem : ∀ n, (l.faults n).AllSystem) : waits l.cleanup.1.events = 0 := by
  rw [waits, (l.cleanup_eq hsystem).2]
  cases l.held <;> rfl

theorem stopping_cleanup (l : Listener) : l.cleanup.2.stopping = l.stopping := by
  unfold cleanup
  dsimp only
  split
  · rfl
  · split <;> rfl

/-- A listener gives back the signals that it took over. -/
theorem restoreSignals_catchSignals {k : Listener} (hsaved : k.saved = []) (onMain : Bool)
    (hsignals : l.signals = (k.catchSignals onMain).signals)
    (hkept : l.saved = (k.catchSignals onMain).saved) :
    l.restoreSignals.signals = k.signals ∧ l.restoreSignals.saved = [] := by
  refine ⟨?_, rfl⟩
  rw [restoreSignals, hsignals, hkept]
  cases onMain with
  | false => simp [catchSignals, hsaved]
  | true => simp [catchSignals, catchSignal, hsaved, SignalTable.set, SignalTable.get]

theorem frame_bind (l : Listener) : l.bind.2.faults = l.faults ∧ l.bind.2.signals = l.signals ∧
    l.bind.2.saved = l.saved ∧ l.bind.2.ready = l.ready ∧ l.bind.2.stopping = l.stopping := by
  have hbinds := l.binds
  generalize listenings l.bind.1.events = ops, l.bind.2 = k at hbinds ⊢
  cases hbinds <;> exact ⟨rfl, rfl, rfl, rfl, rfl⟩

end Listener

namespace Reception

/-- Something that is done with a listener. -/
inductive Use (σ τ : Type) where
  | bind
  /-- serves clients, on the main thread of the process or not, whoever takes them over -/
  | serve (onMain : Bool) (h : Host σ τ) (visits : List (Visit σ))
  | shutdown
  | cleanup

/-- What a listener has shown so far, and what it has become. -/
structure Usage (σ τ : Type) where
  events : List Event
  reception : Reception (τ × Book σ)

namespace Usage

/-- Does something with a listener, whatever comes of that. -/
def next (x : Usage σ τ) : Use σ τ → Usage σ τ
  | .bind =>
    ⟨x.events ++ x.reception.listener.bind.1.events,
      { x.reception with listener := x.reception.listener.bind.2 }⟩
  | .serve onMain h visits =>
    let s := serve h.booking x.reception onMain visits
    ⟨x.events ++ s.events, s.reception⟩
  | .shutdown => ⟨x.events, { x.reception with listener := x.reception.listener.shutdown }⟩
  | .cleanup =>
    ⟨x.events ++ x.reception.listener.cleanup.1.events,
      { x.reception with listener := x.reception.listener.cleanup.2 }⟩

def after (x : Usage σ τ) (us : List (Use σ τ)) : Usage σ τ := us.foldl next x

/-- A listener between two things that are done with it: the listening sockets are in order, and the
process is as it was before. -/
structure AtRest (l₀ : Listener) (x : Usage σ τ) : Prop where
  tended : x.reception.listener.Tended x.events
  faults : x.reception.listener.faults = l₀.faults
  signals : x.reception.listener.signals = l₀.signals
  saved : x.reception.listener.saved = []
  ready : x.reception.listener.ready = false

end Usage

/-- A reception as its loop begins: the listener is bound, has taken over the signals and is ready. -/
def opened (r : Reception τ) (onMain : Bool) : Reception τ :=
  { r with listener := { r.listener.bind.2.catchSignals onMain with ready := true } }

theorem frame_opened (r : Reception τ) (onMain : Bool) :
    (r.opened onMain).listener.faults = r.listener.faults ∧
      (r.opened onMain).listener.attempts = r.listener.bind.2.attempts ∧
      (r.opened onMain).listener.held = r.listener.bind.2.held ∧
      (r.opened onMain).listener.stopping = r.listener.stopping := by
  obtain ⟨hfaults, -, -, -, hstopping⟩ := r.listener.frame_bind
  cases onMain <;> exact ⟨hfaults, rfl, rfl, hstopping⟩

/-- What serving comes to: binding alone when it fails; else what the loop does, and cleaning up. -/
theorem serve_cases (h : Host σ τ) (r : Reception τ) (onMain : Bool) (visits : List (Visit σ)) :
    (r.listener.bind.1.result.isOk = false ∧
      (serve h r onMain visits).events = r.listener.bind.1.events ∧
      (serve h r onMain visits).reception = { r with listener := r.listener.bind.2 }) ∨
    ∃ body, body = loop h (r.opened onMain) visits ∧
      (serve h r onMain visits).events = r.listener.bind.1.events ++
        (body.events ++ body.reception.listener.cleanup.1.events) ∧
      (serve h r onMain visits).reception =
        { body.reception with listener := body.reception.listener.cleanup.2 } := by
  unfold serve
  dsimp only
  split
  · next hfailed => exact .inl ⟨by rw [hfailed]; rfl, rfl, rfl⟩
  · exact .inr ⟨_, rfl, List.append_assoc .., rfl⟩

theorem loop_of_stopping (h : Host σ τ) {r : Reception τ} (hstop : r.listener.stopping = true)
    (visits : List (Visit σ)) : loop h r visits = ⟨[], .ok (), r, visits⟩ := by
  cases visits with
  | nil => rw [loop_nil, if_pos hstop]
  | cons v visits => rw [loop_cons, if_pos hstop]

/-- Those who take over clients leave listening sockets alone. -/
def Use.KeepsOff : Use σ τ → Prop
  | .serve _ h _ => h.KeepsOff
  | _ => True

/-- Whether the listener is asked to stop while something is done with it: by the program, or while it
serves clients. -/
def Use.Asks (x : Usage σ τ) : Use σ τ → Prop
  | .shutdown => True
  | .serve onMain h visits => x.reception.listener.bind.1.result.isOk = true ∧
    ∃ y ∈ taken h.booking (x.reception.opened onMain) visits, asks h.booking y.1 y.2 = true
  | _ => False

theorem tended_loop {h : Host σ τ} (hh : h.KeepsOff) {r : Reception τ} {es : List Event}
    (hr : r.listener.Tended es) (visits : List (Visit σ)) :
    (loop h r visits).reception.listener.Tended (es ++ (loop h r visits).events) := by
  obtain ⟨b, hlistener⟩ := listener_loop h r visits
  have hwaits := isWait_of_loop hh r visits
  have hkept : (r.listener.stopIf b).Tended es := hr.congr rfl rfl rfl
  rw [hlistener]
  exact hkept.append_waits hwaits

namespace Usage

variable {l₀ : Listener} {x : Usage σ τ}

theorem AtRest.refused (h : AtRest l₀ x) (hsystem : ∀ n, (l₀.faults n).AllSystem) (n : Nat) :
    (x.reception.listener.faults n).AllSystem := by
  rw [h.faults]
  exact hsystem n

theorem AtRest.bind (h : AtRest l₀ x) (hsystem : ∀ n, (l₀.faults n).AllSystem) :
    AtRest l₀ (x.next .bind) := by
  obtain ⟨hfaults, hsignals, hsaved, hready, -⟩ := x.reception.listener.frame_bind
  exact ⟨h.tended.bind (h.refused hsystem), hfaults.trans h.faults, hsignals.trans h.signals,
    hsaved.trans h.saved, hready.trans h.ready⟩

theorem AtRest.serve (h : AtRest l₀ x) (hsystem : ∀ n, (l₀.faults n).AllSystem) (onMain : Bool)
    {host : Host σ τ} (hoff : host.KeepsOff) (visits : List (Visit σ)) :
    AtRest l₀ (x.next (.serve onMain host visits)) := by
  have hbound := h.bind hsystem
  obtain ⟨-, hevents, hreception⟩ | ⟨body, hbody, hevents, hreception⟩ :=
    serve_cases host.booking x.reception onMain visits
  · have hfailed : x.next (.serve onMain host visits) = x.next .bind := by
      simp only [Usage.next, hevents, hreception]
    rw [hfailed]
    exact hbound
  · obtain ⟨hfaults, hattempts, hheld, -⟩ := x.reception.frame_opened onMain
    have hopened : (x.reception.opened onMain).listener.Tended (x.next .bind).events :=
      hbound.tended.congr (hfaults.trans (h.faults.trans hbound.faults.symm)) hattempts hheld
    have hserving := tended_loop hoff.booking hopened visits
    obtain ⟨b, hlistener⟩ := listener_loop host.booking (x.reception.opened onMain) visits
    rw [← hbody] at hserving hlistener
    have hloopFaults : body.reception.listener.faults = l₀.faults := by
      rw [hlistener]
      exact hfaults.trans h.faults
    have hrefused : ∀ n, (body.reception.listener.faults n).AllSystem := by
      rw [hloopFaults]
      exact hsystem
    have hended := hserving.cleanup hrefused
    obtain ⟨hafter, -⟩ := body.reception.listener.cleanup_eq hrefused
    -- the loop kept what was saved of the signals, so that they are given back
    obtain ⟨hback, hnone⟩ := Listener.restoreSignals_catchSignals (l := body.reception.listener)
      hbound.saved onMain (by rw [hlistener]; rfl) (by rw [hlistener]; rfl)
    refine ⟨?_, ?_, ?_, ?_, ?_⟩ <;> rw [Usage.next, hreception]
    · rw [hevents, ← List.append_assoc, ← List.append_assoc]
      exact hended
    · rw [hafter]
      exact hloopFaults
    · rw [hafter]
      exact hback.trans hbound.signals
    · rw [hafter]
      exact hnone
    · rw [hafter]

/-- Whatever is done with a listener, it is at rest again afterwards. -/
theorem AtRest.next (h : AtRest l₀ x) (hsystem : ∀ n, (l₀.faults n).AllSystem) {u : Use σ τ}
    (hu : u.KeepsOff) : AtRest l₀ (x.next u) := by
  cases u with
  | bind => exact h.bind hsystem
  | serve onMain host visits => exact h.serve hsystem onMain hu visits
  | shutdown => exact ⟨h.tended.congr rfl rfl rfl, h.faults, h.signals, h.saved, h.ready⟩
  | cleanup =>
    obtain ⟨hafter, -⟩ := x.reception.listener.cleanup_eq (h.refused hsystem)
    have hsignals : x.reception.listener.restoreSignals.signals = l₀.signals := by
      rw [Listener.restoreSignals, h.saved]
      exact h.signals
    exact ⟨h.tended.cleanup (h.refused hsystem), (congrArg Listener.faults hafter).trans h.faults,
      (congrArg Listener.signals hafter).trans hsignals, congrArg Listener.saved hafter,
      congrArg Listener.ready hafter⟩

/-- Once a listener was asked to stop, it waits for no client and hands over none. -/
theorem AtRest.next_stopped (h : AtRest l₀ x) (hsystem : ∀ n, (l₀.faults n).AllSystem)
    (hstop : x.reception.listener.stopping = true) (u : Use σ τ) :
    (x.next u).reception.listener.stopping = true ∧ waits (x.next u).events = waits x.events ∧
      (x.next u).reception.state = x.reception.state := by
  have hrefused := h.refused hsystem
  obtain ⟨-, -, -, -, hbound⟩ := x.reception.listener.frame_bind
  cases u with
  | bind => exact ⟨hbound.trans hstop, by rw [Usage.next, waits_append, Listener.waits_bind]; rfl, rfl⟩
  | serve onMain host visits =>
    obtain ⟨-, hevents, hreception⟩ | ⟨body, hbody, hevents, hreception⟩ :=
      serve_cases host.booking x.reception onMain visits
    · rw [Usage.next, hevents, hreception, waits_append, Listener.waits_bind]
      exact ⟨hbound.trans hstop, rfl, rfl⟩
    · -- the loop is over before it waits
      obtain ⟨hopenedFaults, -, -, hopened⟩ := x.reception.frame_opened onMain
      have hstopped := hopened.trans hstop
      rw [loop_of_stopping host.booking hstopped visits] at hbody
      obtain rfl := hbody
      have hopenedRefused : ∀ n, ((x.reception.opened onMain).listener.faults n).AllSystem := by
        rw [hopenedFaults]
        exact hrefused
      rw [Usage.next, hevents, hreception, waits_append, waits_append, Listener.waits_bind,
        List.nil_append, Listener.waits_cleanup hopenedRefused,
        (Listener.cleanup_eq _ hopenedRefused).1]
      exact ⟨hstopped, rfl, rfl⟩
  | shutdown => exact ⟨rfl, rfl, rfl⟩
  | cleanup =>
    rw [Usage.next, waits_append, Listener.waits_cleanup hrefused,
      (x.reception.listener.cleanup_eq hrefused).1]
    exact ⟨hstop, rfl, rfl⟩

/-- Who asks a listener to stop is heard. -/
theorem stopping_of_asks {u : Use σ τ} (hasks : u.Asks x) : (x.next u).reception.listener.stopping = true := by
  cases u with
  | bind | cleanup => exact hasks.elim
  | shutdown => rfl
  | serve onMain host visits =>
    obtain ⟨hbound, y, hy, hy'⟩ := hasks
    have hstopped := stopping_of_taken host.booking _ hy hy'
    obtain ⟨hfailed, -⟩ | ⟨body, rfl, -, hreception⟩ :=
      serve_cases host.booking x.reception onMain visits
    · simp [hfailed] at hbound
    · rw [Usage.next, hreception]
      exact (Listener.stopping_cleanup _).trans hstopped

theorem AtRest.after (h : AtRest l₀ x) (hsystem : ∀ n, (l₀.faults n).AllSystem) {us : List (Use σ τ)}
    (hus : ∀ u ∈ us, u.KeepsOff) : AtRest l₀ (x.after us) := by
  induction us generalizing x with
  | nil => exact h
  | cons u us ih =>
    rw [List.forall_mem_cons] at hus
    exact ih (h.next hsystem hus.1) hus.2

theorem AtRest.after_stopped (h : AtRest l₀ x) (hsystem : ∀ n, (l₀.faults n).AllSystem)
    (hstop : x.reception.listener.stopping = true) {us : List (Use σ τ)}
    (hus : ∀ u ∈ us, u.KeepsOff) :
    (x.after us).reception.listener.stopping = true ∧ waits (x.after us).events = waits x.events ∧
      (x.after us).reception.state = x.reception.state := by
  induction us generalizing x with
  | nil => exact ⟨hstop, rfl, rfl⟩
  | cons u us ih =>
    rw [List.forall_mem_cons] at hus
    obtain ⟨hstopped, hwaits, hstate⟩ := h.next_stopped hsystem hstop u
    obtain ⟨hlater, hnoWaits, hnoState⟩ := ih (h.next hsystem hus.1) hstopped hus.2
    exact ⟨hlater, hnoWaits.trans hwaits, hnoState.trans hstate⟩

/-- Whether a listening socket was made under a number. -/
def Made (x : Usage σ τ) (n : Nat) : Prop :=
  creations n x.events = 1 ∧ (x.reception.listener.faults n).create = none

/-- What holds between any two things that are done with a listener. -/
structure Settled (l₀ : Listener) (x : Usage σ τ) : Prop where
  /-- the process does on signals what it did in the beginning -/
  signals : x.reception.listener.signals = l₀.signals
  ready : x.reception.listener.ready = false
  idle : x.reception.listener.isRunning = false
  /-- every listening socket has its own number, -/
  created (n : Nat) : creations n x.events ≤ 1
  /-- and was closed once, but for the one that is kept, which was not closed, -/
  closed (n : Nat) : x.Made n →
    closings n x.events = if x.reception.listener.held = some n then 0 else 1
  /-- and is a listening socket that was made; nothing else was closed -/
  held : ∀ n ∈ x.reception.listener.held, x.Made n
  unmade (n : Nat) : ¬x.Made n → closings n x.events = 0
  /-- a listener that was asked to stop waits for no client any more, and hands over none -/
  stopped : x.reception.listener.stopping = true → ∀ more, (∀ u ∈ more, u.KeepsOff) →
    waits (x.after more).events = waits x.events ∧
      (x.after more).reception.state = x.reception.state

theorem AtRest.settled (h : AtRest l₀ x) (hsystem : ∀ n, (l₀.faults n).AllSystem) : Settled l₀ x := by
  have hmade (n : Nat) : x.Made n ↔ n < x.reception.listener.attempts ∧
      (x.reception.listener.faults n).create = none := by
    rw [Made, h.tended.created]
    split <;> simp [*]
  refine ⟨h.signals, h.ready, ?_, fun n => ?_, fun n hn => ?_, fun n hn => ?_, fun n hn => ?_, ?_⟩
  · rw [Listener.isRunning, h.ready, Bool.false_and]
  · rw [h.tended.created]
    split <;> simp
  · rw [hmade] at hn
    simp [h.tended.closed, hn, ite_not]
  · rw [hmade]
    exact h.tended.held n hn
  · rw [hmade, not_and] at hn
    rw [h.tended.closed, if_neg (fun hclosed => hn hclosed.1 hclosed.2.1)]
  · intro hstop more hmore
    exact (h.after_stopped hsystem hstop hmore).2

/-- Whatever is done with a listener, in any order and however often, and whatever the system refuses:
it leaves the process as it was, closes every listening socket once but for the one it keeps, and serves
nobody after it was asked to stop. -/
theorem after_settled {r : Reception (τ × Book σ)} (hunused : r.listener.Unused)
    (hsystem : ∀ n, (r.listener.faults n).AllSystem) {us : List (Use σ τ)}
    (hus : ∀ u ∈ us, u.KeepsOff) :
    Settled r.listener (after ⟨[], r⟩ us) ∧
      ((∃ earlier u later, us = earlier ++ u :: later ∧ u.Asks (after ⟨[], r⟩ earlier)) →
        (after ⟨[], r⟩ us).reception.listener.stopping = true) := by
  have hstart : AtRest r.listener (⟨[], r⟩ : Usage σ τ) := by
    refine ⟨⟨fun n => ?_, fun n => ?_, ?_⟩, rfl, rfl, hunused.saved, hunused.ready⟩
    · rw [hunused.attempts]
      rfl
    · simp [hunused.attempts, closings, listenings, tally]
    · simp [hunused.held]
  refine ⟨(hstart.after hsystem hus).settled hsystem, ?_⟩
  rintro ⟨earlier, u, later, rfl, hasks⟩
  simp only [List.forall_mem_append, List.forall_mem_cons] at hus
  obtain ⟨hearlier, hu, hlater⟩ := hus
  have hbefore := hstart.after hsystem hearlier
  have hparts : after ⟨[], r⟩ (earlier ++ u :: later) = ((after ⟨[], r⟩ earlier).next u).after later := by
    simp [after]
  rw [hparts]
  exact ((hbefore.next hsystem hu).after_stopped hsystem (stopping_of_asks hasks) hlater).1

/-- A listener serves a client from which a fault escapes, with a listening socket that cannot be closed;
then it binds one that does not tell its address, and is asked to stop. The first socket was closed, the
second is kept, and nobody is served any more. -/
theorem after_settled_trouble :
    let faults : Nat → ListenerFaults
      | 0 => { close := some (.system .other []) }
      | _ => { name := some (.system .other []) }
    let r : Reception (Nat × Book Script) :=
      ⟨{ Listener.ofSettings { port := .int 0 } "" with faults }, 0, 0, []⟩
    let h : Host Script Nat := ⟨fun n _ _ => ⟨.fail (.value []), false, n + 1⟩, fun n _ => ([], n)⟩
    let client : Visit Script := .arrival none false none (some (⟨0, {}, none, none, none, none⟩, default))
    let busy : Use Script Nat := .serve true h [client, client]
    let x := after ⟨[], r⟩ [busy, .bind, .shutdown]
    let y := x.after [busy]
    x.reception.listener.signals = {} ∧ x.reception.listener.held = some 1 ∧
      closings 0 x.events = 1 ∧ closings 1 x.events = 0 ∧ waits y.events = 1 ∧
      y.reception.state.2.length = 1 := by
  intro faults r h client busy x y
  have hunused : r.listener.Unused := ⟨rfl, rfl, rfl, rfl⟩
  have hsystem : ∀ n, (r.listener.faults n).AllSystem := by
    rintro (_ | n) <;> constructor <;> rintro f ⟨⟩ <;> rfl
  have hoff : h.KeepsOff := ⟨fun _ _ _ => rfl, fun _ _ => rfl⟩
  have huses : ∀ u ∈ [busy, .bind, .shutdown], u.KeepsOff := by simp [Use.KeepsOff, busy, hoff]
  have hmore : ∀ u ∈ [busy], u.KeepsOff := by simp [Use.KeepsOff, busy, hoff]
  obtain ⟨hsettled, hheard⟩ := after_settled hunused hsystem huses
  have hstopped := hheard ⟨[busy, .bind], .shutdown, [], rfl, trivial⟩
  obtain ⟨hwaits, hstate⟩ := hsettled.stopped hstopped _ hmore
  have hheld : x.reception.listener.held = some 1 := by decide +zetaReduce
  have hmade : x.Made 0 ∧ x.Made 1 := by
    simp only [Made]
    decide +zetaReduce
  have hserved : waits x.events = 1 ∧ x.reception.state.2.length = 1 := by
    decide +zetaReduce
  have hfirst := hsettled.closed 0 hmade.1
  have hsecond := hsettled.closed 1 hmade.2
  rw [hheld] at hfirst hsecond
  refine ⟨hsettled.signals, hheld, hfirst, hsecond, hwaits.trans hserved.1, ?_⟩
  rw [hstate]
  exact hserved.2

end Usage

end Reception

end LineTagger
