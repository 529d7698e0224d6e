import LineTagger.Proofs.Capacity.Booked
import LineTagger.Proofs.Server.Clients

/-!
A server under a limit of sessions. The places that are taken are those of the sessions that have not
ended, so a client is turned away just when there are as many of them as places; and a client that is
turned away sees nothing but its socket closed.
-/

namespace LineTagger.Server

variable {σ : Type} [Peer σ] {s : Server σ} {limit : Value}

open Reception Workers

/-- What starting a session for a client comes to: without a place for it, the client is turned away. -/
def answer (s : Server σ) (c : Call σ (Workers (Pending σ))) : Except Fault Bool :=
  (c.state.spawn (.text ("session-" ++ c.address.pair)) (s.session c.socket c.address)).1.result

/-- How many sessions have not ended: before a visit, while the session of the client that it brings is
at work, and while those are at work that it lets go on. -/
def headcounts (s : Server σ) (x : Reception (Workers (Pending σ)) × Visit σ) : List Nat :=
  x.1.state.waiting.length ::
    match x.2, call? x with
    | .release gate, _ =>
      Workers.alive { x.1.state with waiting := x.1.state.waiting.filter (·.gate ≠ gate) } goOn
        (x.1.state.waiting.filter (·.gate = gate))
    | .arrival .., some c =>
      match s.answer c with
      | .ok true => [c.state.waiting.length + 1]
      | _ => []
    | .arrival .., none => []

/-- Handing over clients and opening gates are steps of the ledger of a server. -/
theorem booked {r₀ r : Reception (Workers (Pending σ))} {es : List Event}
    {vs : List (Reception (Workers (Pending σ)) × Visit σ)} (past : History s.host r₀ es vs r)
    (hstart : Booked limit 0 r₀.state) : Booked limit 0 r.state := by
  refine past.invariant (I := Booked limit 0) hstart ?_ ?_
  · intro w socket a hw
    exact hw.spawn _ _
  · intro w gate hw
    exact hw.release gate goOn

theorem headcounts_le {n : Int} (hn : 1 ≤ n) {x : Reception (Workers (Pending σ)) × Visit σ}
    (h : Booked (.int n) 0 x.1.state) : ∀ k ∈ s.headcounts x, (k : Int) ≤ n := by
  obtain ⟨r, v⟩ := x
  intro k hk
  obtain rfl | hk := List.mem_cons.1 hk
  · simpa using h.waiting_le hn
  cases v with
  | release gate =>
    have hwake := h.wake gate
    rw [Nat.zero_add] at hwake
    exact hwake.alive_le hn k hk
  | arrival signal stops fault client =>
    cases hcall : call? (r, .arrival signal stops fault client) with
    | none =>
      simp only [hcall] at hk
      cases hk
    | some c =>
      have hstate := (visit_of_call s.host hcall).2.1
      simp only [hcall] at hk
      cases hanswer : s.answer c with
      | error f =>
        rw [hanswer] at hk
        cases hk
      | ok started =>
        cases started with
        | false =>
          rw [hanswer] at hk
          cases hk
        | true =>
          rw [hanswer] at hk
          have hentered := (h.enter (hstate ▸ Workers.isFull_of_started _ hanswer) 0).waiting_le hn
          rw [List.mem_singleton.1 hk, hstate]
          exact hentered

/-- A client that is turned away is closed at once, and once more if that fails. -/
theorem closed_of_refused (c : Call σ (Workers (Pending σ)))
    (hfull : c.state.capacity.isFull = .ok true) (hheld : held c.socket.id c.state = []) :
    (∃ k, 1 ≤ k ∧ opsOn c.socket.id (c.handover s.host).run.events ++
        (if c.abandons s.host then [.close] else []) = List.replicate k .close) ∧
      held c.socket.id (c.handover s.host).state = [] := by
  have hcases : Dispatches s c.state c.socket c.address (c.handover s.host) :=
    s.dispatches c.state c.socket c.address
  cases hcases with
  | served hplace =>
    rw [hfull] at hplace
    cases hplace
  | failed hnot => exact absurd hfull hnot
  | turnedAway _ hsockets hwaiting =>
    have hclose : sockets (c.handover s.host).run.events =
        [SocketOp.close].map (Prod.mk c.socket.id) := hsockets
    refine ⟨?_, (held_eq hwaiting _).trans hheld⟩
    rw [opsOn_of_sockets hclose, if_pos rfl]
    cases c.abandons s.host with
    | false => exact ⟨1, Nat.le_refl 1, rfl⟩
    | true => exact ⟨2, by omega, rfl⟩

theorem sent_replicate_close (k : Nat) :
    (List.replicate k SocketOp.close).flatMap SocketOp.sent = [] := by
  rw [List.flatMap_eq_nil_iff]
  intro op hop
  rw [List.eq_of_mem_replicate hop]
  rfl

/-- Under a limit, there are never more sessions than places. A client is turned away just when as many
sessions have not ended as there are places, whichever ended and whichever could not be started before;
on its socket nothing is done but to close it. -/
theorem live_limited (s : Server σ) (hfresh : s.Fresh) {n : Int} (hn : 1 ≤ n)
    (hlimit : s.settings.maxSessions = .int n) (acts : List (Act σ)) :
    (∀ x ∈ (s.live acts).visits, ∀ k ∈ s.headcounts x, (k : Int) ≤ n) ∧
      ((s.live acts).server.reception.state.waiting.length : Int) ≤ n ∧
      ∀ c ∈ (s.live acts).clients,
        (s.answer c = .ok false ↔ (c.state.waiting.length : Int) = n) ∧
        (s.answer c = .ok false →
          (∃ k, 1 ≤ k ∧ opsOn c.socket.id (s.live acts).events = List.replicate k .close) ∧
          sentOn c.socket.id (s.live acts).events = []) := by
  have hlived := lived s acts
  have hstart : Booked (.int n) 0 s.reception.state := by
    rw [← hlimit]
    exact .fresh hfresh.capacity hfresh.waiting
  refine ⟨?_, ?_, ?_⟩
  · intro x hx
    obtain ⟨es, vs, past⟩ := hlived.history.before hx
    exact headcounts_le hn (booked past hstart)
  · simpa using (booked hlived.history hstart).waiting_le hn
  · intro c hc
    obtain ⟨⟨r, v⟩, hx, hcall⟩ := List.mem_filterMap.1 hc
    obtain ⟨es, vs, past⟩ := hlived.history.before hx
    have hbooked : Booked (.int n) 0 c.state := by
      rw [(visit_of_call s.host hcall).2.1]
      exact booked past hstart
    have hrefused : s.answer c = .ok false ↔ c.state.capacity.isFull = .ok true :=
      Workers.refused_iff _ _ _
    refine ⟨?_, ?_⟩
    · rw [hrefused, hbooked.isFull_eq hn]
      simp
    · intro hanswer
      obtain ⟨⟨k, hk, hops⟩, -⟩ : (∃ k, 1 ≤ k ∧
          opsOn c.socket.id (s.live acts).events = List.replicate k .close) ∧
          held c.socket.id (s.live acts).server.reception.state = [] := by
        refine each_client (P := fun ops ps => (∃ k, 1 ≤ k ∧ ops = List.replicate k .close) ∧ ps = [])
          hlived.history hfresh.waiting hc (closed_of_refused c (hrefused.1 hanswer)) ?_
        rintro ops ps gate ⟨hops, rfl⟩
        refine ⟨?_, rfl⟩
        rw [show opened c.socket.id gate [] = [] from rfl, List.append_nil]
        exact hops
      refine ⟨⟨k, hk, hops⟩, ?_⟩
      rw [sentOn_eq, hops, sent_replicate_close]

/-- The only place is taken by a session that waits, so the second client is turned away. -/
theorem live_limited_full :
    let s : Server Script := ofUsable { port := .int 0, maxSessions := .int 1 }
      ⟨"echo", fun line _ _ => .ok (.text (String.ofList line))⟩ "" default
    let slow : Socket Script := { id := 0, peer := { arrivals := [.blocked "gate"] } }
    let quick : Socket Script := { id := 0, peer := { arrivals := [.bytes [105, 10]] } }
    let l := s.live [.run true [.arrival none false none (some (slow, default)),
      .arrival none false none (some (quick, default))]]
    ∃ k, 1 ≤ k ∧ opsOn 1 l.events = List.replicate k .close := by
  intro s slow quick l
  obtain ⟨c, hc, hid, hwaiting⟩ :
      ∃ c ∈ l.clients, c.socket.id = 1 ∧ (c.state.waiting.length : Int) = 1 :=
    ⟨_, List.mem_cons_of_mem _ List.mem_cons_self, rfl, rfl⟩
  obtain ⟨-, -, hclients⟩ := live_limited s (fresh_ofUsable _ _ _ _) (by decide : (1 : Int) ≤ 1) rfl
    [.run true [.arrival none false none (some (slow, default)),
      .arrival none false none (some (quick, default))]]
  obtain ⟨hiff, hcloses⟩ := hclients c hc
  have hops := (hcloses (hiff.2 hwaiting)).1
  rw [hid] at hops
  exact hops

end LineTagger.Server
