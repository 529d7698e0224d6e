import LineTagger.AcceptLoop
import LineTagger.Proofs.Trace

/-!
Accepting clients, visit by visit. A loop takes visits one after another until the listener is to stop;
its history says which visits were taken, in which states, and what was shown. What holds of every loop
is proved by induction over histories.
-/

namespace LineTagger.Reception

variable {σ τ : Type}

/-- What one visit comes to. -/
def visit (h : Host σ τ) (r : Reception τ) : Visit σ → List Event × Verdict × Reception τ
  | .release gate =>
    ((h.release r.state gate).1, .goesOn, { r with state := (h.release r.state gate).2 })
  | .arrival signal stops fault client => await h r signal stops fault client

/-- The visits that a loop takes, each with the reception that takes it. -/
def taken (h : Host σ τ) (r : Reception τ) : List (Visit σ) → List (Reception τ × Visit σ)
  | [] => []
  | v :: visits =>
    if r.listener.stopping then []
    else (r, v) :: match visit h r v with
      | (_, .goesOn, r) => taken h r visits
      | _ => []

theorem loop_nil (h : Host σ τ) (r : Reception τ) :
    loop h r [] = if r.listener.stopping then ⟨[], .ok (), r, []⟩
      else ⟨[.listener (r.listener.held.getD 0) .acceptEnd], .ok (),
        { r with listener := r.listener.shutdown }, []⟩ := rfl

theorem loop_cons (h : Host σ τ) (r : Reception τ) (v : Visit σ) (visits : List (Visit σ)) :
    loop h r (v :: visits) =
      if r.listener.stopping then ⟨[], .ok (), r, v :: visits⟩
      else match visit h r v with
        | (events, .goesOn, r) => (loop h r visits).after events
        | (events, .leaves, r) => ⟨events, .ok (), r, visits⟩
        | (events, .escapes f, r) => ⟨events, .error f, r, visits⟩ := by
  cases v <;> rfl

/-- A client that is handed over: the listener and the state as they are then, and the client with its
number. -/
structure Call (σ τ : Type) where
  listener : Listener
  state : τ
  socket : Socket σ
  address : Address

namespace Call

def handover (h : Host σ τ) (c : Call σ τ) : Handover τ := h.handle c.state c.socket c.address

/-- Whether the listener is to stop by the time the client was handed over. -/
def stopping (h : Host σ τ) (c : Call σ τ) : Bool := (c.handover h).stops || c.listener.stopping

/-- Whether a fault of handing over a client makes the loop close the client: it is of the system or of
the running program, no deadline, and the listener goes on. -/
def abandons (h : Host σ τ) (c : Call σ τ) : Bool :=
  match (c.handover h).run.result with
  | .ok () => false
  | .error f => !f.isTimeout && (f.isSystem || f.isRuntime) && !c.stopping h

variable {h : Host σ τ} {c : Call σ τ}

theorem abandons_of_ok (hok : (c.handover h).run.result = .ok ()) :
    c.abandons h = false := by
  rw [abandons, hok]

theorem abandons_iff {f : Fault} (hfault : (c.handover h).run.result = .error f)
    (hcaught : f.isSystem = true ∨ f.isRuntime = true) :
    c.abandons h = true ↔ f.isTimeout = false ∧ c.stopping h = false := by
  rw [abandons, hfault]
  simp only [Bool.and_eq_true, Bool.or_eq_true, Bool.not_eq_true', hcaught, and_true]

end Call

/-- The client that a visit hands over, if it brings one. -/
def call? : Reception τ × Visit σ → Option (Call σ τ)
  | (r, .arrival signal stops none (some (s, a))) =>
    some ⟨(disturb r.listener signal stops).2, r.state, { s with id := r.accepted }, a⟩
  | _ => none

/-- The clients that a loop hands over, in their order. -/
def calls (h : Host σ τ) (r : Reception τ) (visits : List (Visit σ)) : List (Call σ τ) :=
  (taken h r visits).filterMap call?

/-- What those show during a visit to whom clients are handed over. -/
def foreign (h : Host σ τ) : Reception τ × Visit σ → List Event
  | (r, .release gate) => (h.release r.state gate).1
  | (r, .arrival signal stops fault client) =>
    match call? (r, .arrival signal stops fault client) with
    | some c => (c.handover h).run.events
    | none => []

section

variable (h : Host σ τ) {r : Reception τ} {v : Visit σ}

theorem sockets_disturb (l : Listener) (signal : Option Signal) (stops : Bool) :
    sockets (disturb l signal stops).1 = [] := by
  unfold disturb Listener.deliver
  cases signal with
  | none => rfl
  | some s =>
    dsimp only
    cases l.signals.get s <;> rfl

theorem sockets_meet_none (l : Listener) (f : Fault) :
    sockets (meet l (none : Option (Socket σ)) f).1 = [] := by
  unfold meet
  split
  · rfl
  · split
    · split <;> rfl
    · rfl

theorem sockets_closeQuietly (channel : String) (s : Socket σ) :
    sockets (closeQuietly channel s).events = [(s.id, .close)] := by
  simp only [closeQuietly, Socket.close, Socket.act, Run.emit_bind, Run.attempt_bind]
  cases s.closeFault with
  | none => rfl
  | some f =>
    simp only [Run.guardFault, Run.fail]
    split <;> rfl

/-- Of what a fault leads to, closing the client is the only operation on a socket. -/
theorem sockets_meet_some (l : Listener) (s : Socket σ) (f : Fault) :
    sockets (meet l (some s) f).1 =
      if !f.isTimeout && (f.isSystem || f.isRuntime) && !l.stopping then [(s.id, .close)] else [] := by
  unfold meet
  cases htimeout : f.isTimeout with
  | true => rfl
  | false =>
    cases hcaught : f.isSystem || f.isRuntime with
    | false => rfl
    | true =>
      cases hstop : l.stopping with
      | true => rfl
      | false => exact sockets_closeQuietly l.channel s

theorem receive_eq (r : Reception τ) (s : Socket σ) (a : Address) {c : Call σ τ}
    (hc : c = ⟨r.listener, r.state, s, a⟩) :
    sockets (receive h r s a).1 =
        sockets (c.handover h).run.events ++ (if c.abandons h then [(s.id, .close)] else []) ∧
      (receive h r s a).2.2.state = (c.handover h).state ∧
      (receive h r s a).2.2.accepted = r.accepted := by
  subst hc
  obtain ⟨o, ho⟩ : ∃ o, h.handle r.state s a = o := ⟨_, rfl⟩
  simp only [receive, Call.abandons, Call.handover, Call.stopping, ho]
  have hstop : (if o.stops then r.listener.shutdown else r.listener).stopping =
      (o.stops || r.listener.stopping) := by
    cases o.stops <;> rfl
  cases o.run.result with
  | ok _ => exact ⟨(List.append_nil _).symm, rfl, rfl⟩
  | error f =>
    refine ⟨?_, rfl, rfl⟩
    have hmeet := sockets_meet_some (if o.stops then r.listener.shutdown else r.listener) s f
    rw [hstop] at hmeet
    rw [← hmeet]
    exact sockets_append o.run.events _

/-- What a visit shows of sockets: what handing over a client does and the close of one that is
abandoned, or what goes on where a gate is opened. -/
theorem sockets_visit (r : Reception τ) (v : Visit σ) :
    sockets (visit h r v).1 = sockets (foreign h (r, v)) ++
      match call? (r, v) with
      | some c => if c.abandons h then [(c.socket.id, .close)] else []
      | none => [] := by
  cases v with
  | release gate => exact (List.append_nil _).symm
  | arrival signal stops fault client =>
    have hquiet := sockets_disturb r.listener signal stops
    have hshown : ∀ es, sockets (.listener ((disturb r.listener signal stops).2.held.getD 0) .accept ::
        (disturb r.listener signal stops).1 ++ es) = sockets es := by
      intro es
      show sockets ((disturb r.listener signal stops).1 ++ es) = sockets es
      rw [sockets_append, hquiet, List.nil_append]
    have hmeet := sockets_meet_none (σ := σ) (disturb r.listener signal stops).2
    cases fault with
    | some f => exact (hshown _).trans (hmeet f)
    | none =>
      cases client with
      | none => exact (hshown _).trans (hmeet noClient)
      | some sa =>
        obtain ⟨s, a⟩ := sa
        exact (hshown _).trans (receive_eq h _ _ a rfl).1

/-- A visit that brings a client leaves the state that handing it over comes to, and takes a number. -/
theorem visit_of_call {r : Reception τ} {v : Visit σ} {c : Call σ τ} (hcall : call? (r, v) = some c) :
    c.socket.id = r.accepted ∧ c.state = r.state ∧
      (visit h r v).2.2.state = (c.handover h).state ∧
      (visit h r v).2.2.accepted = r.accepted + 1 := by
  cases v with
  | release gate => cases hcall
  | arrival signal stops fault client =>
    cases fault with
    | some f => cases hcall
    | none =>
      cases client with
      | none => cases hcall
      | some sa =>
        cases hcall
        obtain ⟨-, hstate, haccepted⟩ := receive_eq h { r with
          listener := (disturb r.listener signal stops).2, accepted := r.accepted + 1 }
          { sa.1 with id := r.accepted } sa.2 rfl
        exact ⟨rfl, rfl, hstate, haccepted⟩

theorem foreign_of_call {r : Reception τ} {v : Visit σ} {c : Call σ τ} (hcall : call? (r, v) = some c) :
    foreign h (r, v) = (c.handover h).run.events := by
  cases v with
  | release gate => cases hcall
  | arrival signal stops fault client => rw [foreign, hcall]

theorem opsOn_visit {r : Reception τ} {v : Visit σ} {c : Call σ τ} (hcall : call? (r, v) = some c)
    (k : Nat) : opsOn k (visit h r v).1 = opsOn k (c.handover h).run.events ++
      if c.socket.id = k ∧ c.abandons h = true then [.close] else [] := by
  have hvisit := sockets_visit h r v
  rw [foreign_of_call h hcall, hcall] at hvisit
  dsimp only at hvisit
  rw [opsOn, hvisit, List.filterMap_append, ← opsOn]
  congr 1
  cases c.abandons h with
  | false => simp
  | true => by_cases hid : c.socket.id = k <;> simp [hid]

theorem opsOn_visit_of_no_call {r : Reception τ} {v : Visit σ} (hcall : call? (r, v) = none) (k : Nat) :
    opsOn k (visit h r v).1 = opsOn k (foreign h (r, v)) := by
  have hvisit := sockets_visit h r v
  rw [hcall, List.append_nil] at hvisit
  exact opsOn_congr hvisit k

theorem visit_of_no_call {r : Reception τ} {v : Visit σ} (hcall : call? (r, v) = none) :
    (visit h r v).2.2.accepted = r.accepted ∧
      ((∃ gate, v = .release gate ∧ foreign h (r, v) = (h.release r.state gate).1 ∧
          (visit h r v).2.2.state = (h.release r.state gate).2) ∨
        foreign h (r, v) = [] ∧ (visit h r v).2.2.state = r.state) := by
  cases v with
  | release gate => exact ⟨rfl, .inl ⟨gate, rfl, rfl, rfl⟩⟩
  | arrival signal stops fault client =>
    cases fault with
    | some f => exact ⟨rfl, .inr ⟨rfl, rfl⟩⟩
    | none =>
      cases client with
      | none => exact ⟨rfl, .inr ⟨rfl, rfl⟩⟩
      | some sa => cases hcall

end

/-- What happens around a listener: visits, and between them what shows no operation on a socket and
touches the listener alone. The indices are what was shown, the visits with the receptions that took
them, and the reception in the end. -/
inductive History (h : Host σ τ) (r₀ : Reception τ) :
    List Event → List (Reception τ × Visit σ) → Reception τ → Prop where
  | start : History h r₀ [] [] r₀
  | visit {es : List Event} {vs : List (Reception τ × Visit σ)} {r : Reception τ}
      (past : History h r₀ es vs r) (v : Visit σ) :
      History h r₀ (es ++ (visit h r v).1) (vs ++ [(r, v)]) (visit h r v).2.2
  | apart {es fs : List Event} {vs : List (Reception τ × Visit σ)} {r : Reception τ}
      (past : History h r₀ es vs r) (hquiet : sockets fs = []) (l : Listener) :
      History h r₀ (es ++ fs) vs { r with listener := l }

section

variable {h : Host σ τ} {r₀ r : Reception τ} {es : List Event} {vs : List (Reception τ × Visit σ)}

/-- Whatever became of a loop, its visits continue the history before it. -/
theorem History.loop (past : History h r₀ es vs r) (visits : List (Visit σ)) :
    History h r₀ (es ++ (loop h r visits).events) (vs ++ taken h r visits)
      (loop h r visits).reception := by
  -- on the visits that are still to come; what is past grows at its end
  induction visits generalizing es vs r with
  | nil =>
    rw [loop_nil, taken, List.append_nil]
    cases hstop : r.listener.stopping with
    | true =>
      rw [if_pos rfl, List.append_nil]
      exact past
    | false => exact past.apart rfl _
  | cons v visits ih =>
    rw [loop_cons, taken]
    cases hstop : r.listener.stopping with
    | true =>
      rw [if_pos rfl, if_pos rfl, List.append_nil, List.append_nil]
      exact past
    | false =>
      have hnext := past.visit v
      rw [if_neg Bool.false_ne_true, if_neg Bool.false_ne_true]
      generalize Reception.visit h r v = step at hnext ⊢
      obtain ⟨events, verdict, r'⟩ := step
      cases verdict with
      | goesOn =>
        have hrest := ih hnext
        rw [List.append_assoc, List.append_assoc] at hrest
        exact hrest
      | leaves => exact hnext
      | escapes f => exact hnext

theorem History.before (past : History h r₀ es vs r) {x : Reception τ × Visit σ} (hx : x ∈ vs) :
    ∃ fs us, History h r₀ fs us x.1 := by
  induction past with
  | start => cases hx
  | apart _ _ _ ih => exact ih hx
  | visit past v ih =>
    obtain hx | hx := List.mem_append.1 hx
    · exact ih hx
    · rw [List.mem_singleton.1 hx]
      exact ⟨_, _, past⟩

/-- What handing over clients and opening gates keep of a state holds at any time. -/
theorem History.invariant {I : τ → Prop} (past : History h r₀ es vs r) (hstart : I r₀.state)
    (hcall : ∀ w s a, I w → I (h.handle w s a).state)
    (hrelease : ∀ w gate, I w → I (h.release w gate).2) : I r.state := by
  induction past with
  | start => exact hstart
  | apart _ _ _ ih => exact ih
  | @visit es vs r _ v ih =>
    cases hcase : call? (r, v) with
    | some c =>
      obtain ⟨-, hbefore, hafter, -⟩ := visit_of_call h hcase
      rw [hafter]
      exact hcall _ _ _ (hbefore ▸ ih)
    | none =>
      obtain ⟨-, ⟨gate, -, -, hafter⟩ | ⟨-, hafter⟩⟩ := visit_of_no_call h hcase
      · rw [hafter]
        exact hrelease _ _ ih
      · rw [hafter]
        exact ih

theorem History.invariant_of_call {I : τ → Prop} (past : History h r₀ es vs r) (hstart : I r₀.state)
    (hcall : ∀ w s a, I w → I (h.handle w s a).state)
    (hrelease : ∀ w gate, I w → I (h.release w gate).2) {c : Call σ τ} (hc : c ∈ vs.filterMap call?) : I c.state := by
  obtain ⟨⟨r, v⟩, hx, hcase⟩ := List.mem_filterMap.1 hc
  obtain ⟨fs, us, before⟩ := past.before hx
  rw [(visit_of_call h hcase).2.1]
  exact before.invariant hstart hcall hrelease

/-- Clients are numbered in the order in which they are handed over. -/
theorem History.numbered (past : History h r₀ es vs r) :
    (vs.filterMap call?).map (fun c => c.socket.id) =
        List.range' r₀.accepted (vs.filterMap call?).length ∧
      r.accepted = r₀.accepted + (vs.filterMap call?).length := by
  induction past with
  | start => exact ⟨rfl, rfl⟩
  | apart _ _ _ ih => exact ih
  | @visit es vs r _ v ih =>
    obtain ⟨hids, haccepted⟩ := ih
    rw [List.filterMap_append]
    cases hcall : call? (r, v) with
    | none =>
      have hnone : [(r, v)].filterMap call? = [] := by simp [hcall]
      rw [hnone, List.append_nil]
      exact ⟨hids, (visit_of_no_call h hcall).1.trans haccepted⟩
    | some c =>
      obtain ⟨hid, -, -, hnext⟩ := visit_of_call h hcall
      have hsome : [(r, v)].filterMap call? = [c] := by simp [hcall]
      rw [hsome, List.map_append, List.length_append, List.length_singleton, hids, hnext, haccepted]
      refine ⟨?_, by omega⟩
      rw [List.map_singleton, hid, haccepted, ← List.range'_append_1]
      rfl

theorem History.id_lt (past : History h r₀ es vs r) {c : Call σ τ} (hc : c ∈ vs.filterMap call?) :
    c.socket.id < r.accepted := by
  obtain ⟨hids, haccepted⟩ := past.numbered
  have hmem : c.socket.id ∈ (vs.filterMap call?).map fun c => c.socket.id :=
    List.mem_map.2 ⟨c, hc, rfl⟩
  rw [hids, List.mem_range'_1] at hmem
  omega

end

end LineTagger.Reception
