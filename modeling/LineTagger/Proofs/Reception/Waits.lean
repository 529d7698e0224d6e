import LineTagger.Proofs.Reception.Visits

/-!
What an accept loop does with its listener: it waits for clients, once for each arrival, and it may be
asked to stop while it does. Nothing else about the listener changes.
-/

namespace LineTagger

variable {σ τ : Type}

/-- A host that does nothing on listening sockets. -/
structure Host.KeepsOff (h : Host σ τ) : Prop where
  handle (w : τ) (s : Socket σ) (a : Address) : listenings (h.handle w s a).run.events = []
  release (w : τ) (gate : String) : listenings (h.release w gate).1 = []

/-- The clients that were handed over, each with its address. -/
abbrev Book (σ : Type) := List (Socket σ × Address)

/-- A host that also writes down, in their order, the clients that it is handed. -/
def Host.booking (h : Host σ τ) : Host σ (τ × Book σ) where
  handle w s a :=
    let o := h.handle w.1 s a
    ⟨o.run, o.stops, (o.state, w.2 ++ [(s, a)])⟩
  release w gate := ((h.release w.1 gate).1, (h.release w.1 gate).2, w.2)

theorem Host.KeepsOff.booking {h : Host σ τ} (hh : h.KeepsOff) : h.booking.KeepsOff where
  handle w := hh.handle w.1
  release w := hh.release w.1

namespace Visit

/-- The client that a visit brings. -/
def client? : Visit σ → Option (Socket σ × Address)
  | .arrival _ _ none client => client
  | _ => none

/-- The fault with which a wait ends. -/
def fault? : Visit σ → Option Fault
  | .arrival _ _ fault _ => fault
  | .release _ => none

/-- Whether a visit ends a wait. -/
def isArrival : Visit σ → Bool
  | .arrival .. => true
  | .release _ => false

end Visit

namespace Listener

/-- A listener that is asked to stop if so. -/
def stopIf (l : Listener) (asked : Bool) : Listener := { l with stopping := l.stopping || asked }

variable (l : Listener)

@[simp] theorem stopping_stopIf (b : Bool) : (l.stopIf b).stopping = (l.stopping || b) := rfl

@[simp] theorem stopIf_false : l.stopIf false = l := by simp [stopIf]

theorem stopIf_stopIf (a b : Bool) : (l.stopIf a).stopIf b = l.stopIf (a || b) := by
  simp [stopIf, Bool.or_assoc]

theorem shutdown_eq_stopIf : l.shutdown = l.stopIf true := by simp [stopIf, shutdown]

theorem ite_shutdown (b : Bool) : (if b = true then l.shutdown else l) = l.stopIf b := by
  cases b <;> simp [shutdown_eq_stopIf]

end Listener

namespace Reception

/-- Whether somebody asks the listener to stop during a visit: by a signal that it takes care of, while
it waits, or as its client is handed over. -/
def asks (h : Host σ τ) (r : Reception τ) : Visit σ → Bool
  | .release _ => false
  | .arrival signal stops fault client =>
    signal.any (fun s => r.listener.signals.get s = .stopsListener) || stops ||
      (call? (r, .arrival signal stops fault client)).any fun c => (c.handover h).stops

/-- Whether somebody asks the listener to stop during some visits. -/
def asked (h : Host σ τ) (r : Reception τ) : List (Visit σ) → Bool
  | [] => false
  | v :: vs => asks h r v || asked h (visit h r v).2.2 vs

section

variable (h : Host σ τ) (r : Reception τ)

theorem listener_disturb (l : Listener) (signal : Option Signal) (stops : Bool) :
    (disturb l signal stops).2 =
      l.stopIf (signal.any (fun s => l.signals.get s = .stopsListener) || stops) := by
  rw [← l.stopIf_stopIf]
  cases signal with
  | none => simp [disturb, Listener.ite_shutdown]
  | some s =>
    cases hget : l.signals.get s with
    | initial => simp [disturb, Listener.deliver, Listener.ite_shutdown, hget]
    | stopsListener =>
      simp [disturb, Listener.deliver, Listener.ite_shutdown, ← Listener.shutdown_eq_stopIf, hget]

theorem listener_receive (s : Socket σ) (a : Address) {c : Call σ τ}
    (hc : c = ⟨r.listener, r.state, s, a⟩) :
    (receive h r s a).2.2.listener = r.listener.stopIf (c.handover h).stops := by
  subst hc
  simp only [receive, Call.handover]
  obtain ⟨o, ho⟩ : ∃ o, h.handle r.state s a = o := ⟨_, rfl⟩
  rw [ho, Listener.ite_shutdown]
  cases o.run.result <;> rfl

/-- A visit changes nothing about a listener but that it may ask it to stop. -/
theorem listener_visit (v : Visit σ) : (visit h r v).2.2.listener = r.listener.stopIf (asks h r v) := by
  cases v with
  | release gate => simp [visit, asks]
  | arrival signal stops fault client =>
    have hdisturb := listener_disturb r.listener signal stops
    cases fault with
    | some f => simpa [visit, await, asks, call?] using hdisturb
    | none =>
      cases client with
      | none => simpa [visit, await, asks, call?] using hdisturb
      | some sa =>
        have hreceive := listener_receive h { r with
          listener := (disturb r.listener signal stops).2, accepted := r.accepted + 1 }
          { sa.1 with id := r.accepted } sa.2 rfl
        rw [hdisturb, Listener.stopIf_stopIf] at hreceive
        simpa [visit, await, asks, call?, hdisturb] using hreceive

/-- Whatever becomes of a loop, its listener changes in nothing but that it may be asked to stop. -/
theorem listener_loop (visits : List (Visit σ)) :
    ∃ b, (loop h r visits).reception.listener = r.listener.stopIf b := by
  induction visits generalizing r with
  | nil =>
    rw [loop_nil]
    cases r.listener.stopping with
    | true => exact ⟨false, r.listener.stopIf_false.symm⟩
    | false => exact ⟨true, r.listener.shutdown_eq_stopIf⟩
  | cons v visits ih =>
    rw [loop_cons]
    cases r.listener.stopping with
    | true => exact ⟨false, r.listener.stopIf_false.symm⟩
    | false =>
      have hvisit := listener_visit h r v
      rw [if_neg Bool.false_ne_true]
      generalize visit h r v = step at hvisit ⊢
      obtain ⟨events, verdict, r'⟩ := step
      cases verdict with
      | goesOn =>
        obtain ⟨b, hloop⟩ := ih r'
        rw [hvisit, Listener.stopIf_stopIf] at hloop
        exact ⟨_, hloop⟩
      | leaves | escapes f => exact ⟨_, hvisit⟩

theorem stopping_loop {r : Reception τ} (hstop : r.listener.stopping = true)
    (visits : List (Visit σ)) : (loop h r visits).reception.listener.stopping = true := by
  obtain ⟨b, hloop⟩ := listener_loop h r visits
  rw [hloop, Listener.stopping_stopIf, hstop, Bool.true_or]

/-- A listener that is asked to stop during a visit of its loop is to stop after the loop. -/
theorem stopping_of_taken {visits : List (Visit σ)} {y : Reception τ × Visit σ}
    (hy : y ∈ taken h r visits) (hasks : asks h y.1 y.2 = true) :
    (loop h r visits).reception.listener.stopping = true := by
  induction visits generalizing r with
  | nil => simp [taken] at hy
  | cons v visits ih =>
    cases hgoing : r.listener.stopping with
    | true => exact stopping_loop h hgoing (v :: visits)
    | false =>
      have hvisit := listener_visit h r v
      rw [taken, hgoing, if_neg Bool.false_ne_true, List.mem_cons] at hy
      rw [loop_cons, hgoing, if_neg Bool.false_ne_true]
      -- who asks at the first visit is heard now, who asks later in the rest of the loop
      have hasked (hfirst : y = (r, v)) : (visit h r v).2.2.listener.stopping = true := by
        subst hfirst
        rw [hvisit, Listener.stopping_stopIf, hasks, Bool.or_true]
      generalize visit h r v = step at hy hasked ⊢
      obtain ⟨events, verdict, r'⟩ := step
      cases verdict with
      | goesOn => exact hy.elim (fun hfirst => stopping_loop h (hasked hfirst) visits) (ih r')
      | leaves | escapes f => exact hasked (hy.resolve_right List.not_mem_nil)

end

section

variable {h : Host σ τ} (hh : h.KeepsOff) (r : Reception τ)

omit hh in
theorem listenings_disturb (l : Listener) (signal : Option Signal) (stops : Bool) :
    listenings (disturb l signal stops).1 = [] := by
  unfold disturb Listener.deliver
  cases signal with
  | none => rfl
  | some s =>
    dsimp only
    cases l.signals.get s <;> rfl

omit hh in
theorem listenings_meet (l : Listener) (client : Option (Socket σ)) (f : Fault) :
    listenings (meet l client f).1 = [] := by
  unfold meet
  split
  · rfl
  · split
    · split
      · rfl
      · split
        · rfl
        · next s =>
          simp only [closeQuietly, Socket.close, Socket.act, Run.emit_bind, Run.attempt_bind]
          cases s.closeFault with
          | none => rfl
          | some g =>
            simp only [Run.guardFault, Run.fail]
            split <;> rfl
    · rfl

include hh

theorem listenings_receive (s : Socket σ) (a : Address) : listenings (receive h r s a).1 = [] := by
  have hhandle := hh.handle r.state s a
  simp only [receive]
  generalize h.handle r.state s a = o at hhandle ⊢
  cases o.run.result with
  | ok _ => exact hhandle
  | error f =>
    refine (listenings_append o.run.events _).trans ?_
    rw [hhandle, listenings_meet, List.nil_append]

/-- Of a visit, the wait that it ends is the only operation on the listening socket. -/
theorem listenings_visit (v : Visit σ) : listenings (visit h r v).1 =
    if v.isArrival then [(r.listener.held.getD 0, .accept)] else [] := by
  cases v with
  | release gate => exact hh.release r.state gate
  | arrival signal stops fault client =>
    have hheld : (disturb r.listener signal stops).2.held = r.listener.held := by
      rw [listener_disturb]
      rfl
    have hquiet := listenings_disturb r.listener signal stops
    have hshown : ∀ es, listenings es = [] →
        listenings (.listener ((disturb r.listener signal stops).2.held.getD 0) .accept ::
          (disturb r.listener signal stops).1 ++ es) = [(r.listener.held.getD 0, .accept)] := by
      intro es hes
      rw [listenings_append, hes, List.append_nil, hheld]
      exact congrArg (List.cons _) hquiet
    have hmeet := listenings_meet (disturb r.listener signal stops).2 (none : Option (Socket σ))
    cases fault with
    | some f => exact hshown _ (hmeet f)
    | none =>
      cases client with
      | none => exact hshown _ (hmeet noClient)
      | some sa => exact hshown _ (listenings_receive hh _ _ _)

theorem waits_visit (v : Visit σ) : waits (visit h r v).1 = v.isArrival.toNat := by
  rw [waits, listenings_visit hh]
  cases v.isArrival <;> rfl

/-- Of a loop, waits are the only operations on the listening socket. -/
theorem isWait_of_loop (visits : List (Visit σ)) :
    ∀ x ∈ listenings (loop h r visits).events, x.2.isWait = true := by
  induction visits generalizing r with
  | nil =>
    rw [loop_nil]
    cases r.listener.stopping <;> simp [listenings, Event.listenerOp?, ListenerOp.isWait]
  | cons v visits ih =>
    rw [loop_cons]
    cases r.listener.stopping with
    | true => simp [listenings]
    | false =>
      have hvisit : ∀ x ∈ listenings (visit h r v).1, x.2.isWait = true := by
        rw [listenings_visit hh]
        cases v.isArrival <;> simp [ListenerOp.isWait]
      rw [if_neg Bool.false_ne_true]
      generalize visit h r v = step at hvisit ⊢
      obtain ⟨events, verdict, r'⟩ := step
      cases verdict with
      | goesOn =>
        intro x hx
        have hparts : x ∈ listenings (events ++ (loop h r' visits).events) := hx
        rw [listenings_append, List.mem_append] at hparts
        obtain hx | hx := hparts
        · exact hvisit x hx
        · exact ih r' x hx
      | leaves | escapes f => exact hvisit

end

end Reception

end LineTagger
