import LineTagger.Proofs.Capacity.Accounting
import LineTagger.Proofs.Server.Clients

/-!
Clients of a server do not meet. As long as every client gets a session, what is done on its socket
is what a session does that has the socket for itself, up to the gate where it waits. It does not depend
on other clients, on how many there are, nor on the order in which sessions go on and end.
-/

namespace LineTagger

variable {σ : Type} [Peer σ]

namespace SessionRun

/-- What a session comes to once the gate where it waits has opened; it keeps what it has shown. -/
def onward (r : SessionRun σ) : SessionRun σ :=
  match r.stop with
  | .ended _ => r
  | .parked _ p => (Session.resume p).after r.events

def afterGates (r : SessionRun σ) : Nat → SessionRun σ
  | 0 => r
  | n + 1 => (r.afterGates n).onward

theorem onward_of_ended {r : SessionRun σ} {result : Except Fault Outcome}
    (h : r.stop = .ended result) : r.onward = r := by
  rw [onward, h]

theorem onward_of_parked {r : SessionRun σ} {gate : String} {p : Pending σ}
    (h : r.stop = .parked gate p) : r.onward = (Session.resume p).after r.events := by
  rw [onward, h]

theorem opsOn_onward (r : SessionRun σ) (j : Nat) : opsOn j r.events <+: opsOn j r.onward.events := by
  cases h : r.stop with
  | ended result =>
    refine ⟨[], ?_⟩
    rw [onward_of_ended h, List.append_nil]
  | parked gate p =>
    refine ⟨opsOn j (Session.resume p).events, ?_⟩
    rw [onward_of_parked h, SessionRun.after, opsOn_append]

/-- The more gates open, the more a session does, and it takes nothing back. -/
theorem opsOn_afterGates (r : SessionRun σ) (j : Nat) {n m : Nat} (h : n ≤ m) :
    opsOn j (r.afterGates n).events <+: opsOn j (r.afterGates m).events := by
  induction h with
  | refl => exact List.prefix_refl _
  | step _ ih => exact ih.trans (opsOn_onward _ j)

theorem afterGates_of_ended {r : SessionRun σ} {n m : Nat} {result : Except Fault Outcome}
    (hended : (r.afterGates n).stop = .ended result) (h : n ≤ m) :
    r.afterGates m = r.afterGates n := by
  induction h with
  | refl => rfl
  | @step m _ ih =>
    rw [afterGates, ih]
    exact onward_of_ended hended

end SessionRun

/-- The threads that wait for a session over socket `j` when it stops, but over socket `i`. -/
inductive SessionStop.HeldBy (i j : Nat) : SessionStop σ → List (Waiting (Pending σ)) → Prop where
  | ended (result : Except Fault Outcome) : HeldBy i j (.ended result) []
  | parked (gate name : String) {p q : Pending σ} (h : Pending.Alike i j p q) :
      HeldBy i j (.parked gate q) [⟨name, gate, p⟩]

omit [Peer σ] in
theorem SessionRun.Alike.heldBy {i j : Nat} {r t : SessionRun σ} (h : SessionRun.Alike i j r t)
    (name : String) : t.stop.HeldBy i j (r.work.stop.waiting? name).toList := by
  obtain ⟨es, stop⟩ := r
  obtain ⟨fs, stop'⟩ := t
  obtain ⟨-, hstop⟩ := h
  cases hstop with
  | ended result => cases result <;> exact .ended _
  | parked gate hpending => exact .parked gate name hpending

omit [Peer σ] in
theorem SessionStop.HeldBy.ne_nil_iff {i j : Nat} {stop : SessionStop σ}
    {ps : List (Waiting (Pending σ))} (h : stop.HeldBy i j ps) :
    ps ≠ [] ↔ ∃ gate p, stop = .parked gate p := by
  cases h with
  | ended result => simp
  | parked gate name hpending => simp

namespace Server

omit [Peer σ] in
theorem held_ne_nil_iff (i : Nat) (w : Workers (Pending σ)) :
    held i w ≠ [] ↔ ∃ p ∈ w.waiting, p.rest.connection.socket.id = i := by
  simp [held]

/-- What was done on socket `i`, and who waits of its sessions, is what a session that is alone comes
to on socket `j` after some gates. -/
def Follows (i j : Nat) (alone : SessionRun σ) (ops : List SocketOp)
    (ps : List (Waiting (Pending σ))) : Prop :=
  ∃ n, ops = opsOn j (alone.afterGates n).events ∧ (alone.afterGates n).stop.HeldBy i j ps

/-- When a gate opens, a session goes on that waits there, as it would alone. -/
theorem Follows.opened {i j : Nat} {alone : SessionRun σ} {ops : List SocketOp}
    {ps : List (Waiting (Pending σ))} (h : Follows i j alone ops ps) (gate : String) :
    Follows i j alone (ops ++ opened i gate ps) (remaining gate ps) := by
  obtain ⟨n, hops, hheld⟩ := h
  generalize hstop : (alone.afterGates n).stop = stop at hheld
  cases hheld with
  | ended result =>
    refine ⟨n, ?_, ?_⟩
    · rw [hops]
      exact List.append_nil _
    · rw [hstop]
      exact .ended result
  | @parked gate' name p q hpending =>
    by_cases hgate : gate' = gate
    -- the gate is the one where the session waits: both go on, and are alike again
    · subst hgate
      have hresume := Session.resume_alike hpending
      have hnext : alone.afterGates (n + 1) = (Session.resume q).after (alone.afterGates n).events :=
        SessionRun.onward_of_parked hstop
      refine ⟨n + 1, ?_, ?_⟩
      · rw [opened_self i ⟨name, gate', p⟩, hnext, SessionRun.after, opsOn_append, hops,
          ← hresume.events.opsOn_eq]
        rfl
      · rw [remaining_self ⟨name, gate', p⟩, hnext]
        exact hresume.heldBy name
    · refine ⟨n, ?_, ?_⟩
      · rw [opened_of_ne i hgate, hops, List.append_nil]
      · rw [remaining_of_ne hgate, hstop]
        exact .parked gate' name hpending

/-- A client that gets a session is served as if the session were alone. -/
theorem follows_of_served (s : Server σ) (c : Reception.Call σ (Workers (Pending σ)))
    (hfull : c.state.capacity.isFull = .ok false)
    (hgood : c.state.badStarts.contains c.state.starts = false)
    (hheld : held c.socket.id c.state = []) (j : Nat) (channel : String) (id : Value) (now : Double)
    (address : Address) :
    Follows c.socket.id j
      (Session.handle s.settings s.classifier channel id now { c.socket with id := j } address)
      (opsOn c.socket.id (c.handover s.host).run.events ++
        if c.abandons s.host then [.close] else [])
      (held c.socket.id (c.handover s.host).state) := by
  have hcases : Dispatches s c.state c.socket c.address (c.handover s.host) :=
    s.dispatches c.state c.socket c.address
  cases hcases with
  | turnedAway hreached =>
    rw [hfull] at hreached
    cases hreached
  | failed _ hbad =>
    rw [hbad hfull] at hgood
    cases hgood
  | @served _ _ r ownId name hr hsockets hwaiting hresult =>
    have hkeeps : r.KeepsTo c.socket.id := hr ▸ Session.handle_keepsTo _ _ _ _ _ c.socket c.address
    have hsocket : c.socket.Alike { c.socket with id := j } := ⟨rfl, rfl, rfl, rfl, rfl⟩
    have halike : SessionRun.Alike c.socket.id j r
        (Session.handle s.settings s.classifier channel id now { c.socket with id := j } address) :=
      hr ▸ Session.handle_alike hsocket _ _ _ _ _ _ _ _ _ _
    refine ⟨0, ?_, ?_⟩
    · rw [Reception.Call.abandons_of_ok hresult, opsOn_congr hsockets, halike.events.opsOn_eq]
      exact List.append_nil _
    · have hown : held c.socket.id (c.handover s.host).state =
          (r.work.stop.waiting? name).toList := by
        rw [held, hwaiting, List.filter_append, ← held, hheld, List.nil_append]
        cases hnext : r.work.stop.waiting? name with
        | none => rfl
        | some p => simp [hkeeps.waiting name p hnext]
      rw [hown]
      exact halike.heldBy name

/-- Without a limit and as long as threads can be started, what a server does on the socket of a client
is what a session does that is alone with the same settings and classifier, after as many gates as have
opened for it: a part while the session waits, and all of it once it waits no more. -/
theorem live_isolated (s : Server σ) (hfresh : s.Fresh) (hlimit : s.settings.maxSessions = .null)
    (hstarts : s.reception.state.badStarts = []) (acts : List (Act σ))
    {c : Reception.Call σ (Workers (Pending σ))} (hc : c ∈ (s.live acts).clients) (j : Nat)
    (channel : String) (id : Value) (now : Double) (address : Address) :
    let alone :=
      Session.handle s.settings s.classifier channel id now { c.socket with id := j } address
    ∃ n, opsOn c.socket.id (s.live acts).events = opsOn j (alone.afterGates n).events ∧
      ((∃ p ∈ (s.live acts).server.reception.state.waiting,
          p.rest.connection.socket.id = c.socket.id) ↔
        ∃ gate p, (alone.afterGates n).stop = .parked gate p) ∧
      ∀ m, n ≤ m → opsOn j (alone.afterGates n).events <+: opsOn j (alone.afterGates m).events ∧
        ((∀ gate p, (alone.afterGates n).stop ≠ .parked gate p) →
          alone.afterGates m = alone.afterGates n) := by
  intro alone
  have hlived := lived s acts
  have halike := alike_of_client hlived hc
  have hfull : c.state.capacity.isFull = .ok false := by
    apply Capacity.isFull_null
    rw [halike.limit, hfresh.capacity]
    exact hlimit
  have hgood : c.state.badStarts.contains c.state.starts = false := by
    rw [halike.badStarts, hstarts]
    rfl
  obtain ⟨n, hops, hheld⟩ : Follows c.socket.id j alone (opsOn c.socket.id (s.live acts).events)
      (held c.socket.id (s.live acts).server.reception.state) := by
    refine each_client hlived.history hfresh.waiting hc ?_ ?_
    · intro hnone
      exact follows_of_served s c hfull hgood hnone j channel id now address
    · intro ops ps gate h
      exact h.opened gate
  refine ⟨n, hops, (held_ne_nil_iff _ _).symm.trans hheld.ne_nil_iff, ?_⟩
  intro m hm
  refine ⟨alone.opsOn_afterGates j hm, ?_⟩
  intro hends
  cases hstop : (alone.afterGates n).stop with
  | ended result => exact SessionRun.afterGates_of_ended hstop hm
  | parked gate p => exact absurd hstop (hends gate p)

/-- Of two clients, the first one waits at a gate while the second one is served. -/
theorem live_isolated_gate :
    let s : Server Script := ofUsable { port := .int 0 }
      ⟨"echo", fun line _ _ => .ok (.text (String.ofList line))⟩ "" default
    let slow : Socket Script :=
      { id := 0, peer := { arrivals := [.blocked "gate", .bytes [104, 10]] } }
    let quick : Socket Script := { id := 0, peer := { arrivals := [.bytes [105, 10]] } }
    let l := s.live [.run true [.arrival none false none (some (slow, default)),
      .arrival none false none (some (quick, default)), .release "gate"]]
    let alone := Session.handle s.settings s.classifier "" .null default quick default
    ∃ n, opsOn 1 l.events = opsOn 0 (alone.afterGates n).events := by
  intro s slow quick l alone
  obtain ⟨c, hc, hsocket⟩ : ∃ c ∈ l.clients, c.socket = { quick with id := 1 } :=
    ⟨_, List.mem_cons_of_mem _ List.mem_cons_self, rfl⟩
  obtain ⟨n, hops, -⟩ :=
    live_isolated s (fresh_ofUsable _ _ _ _) rfl rfl _ hc 0 "" .null default default
  rw [hsocket] at hops
  exact ⟨n, hops⟩

end Server

end LineTagger
