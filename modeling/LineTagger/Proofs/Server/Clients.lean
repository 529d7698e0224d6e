import LineTagger.Proofs.Server.Life
import LineTagger.Proofs.Session.Alike
import LineTagger.Proofs.Workers
import Mathlib.Data.List.Basic

/-!
The clients of a server, one by one. A session keeps to its socket, so what is done on one socket and
which sessions of it wait change only when its client is handed over and when its session goes on.
-/

namespace LineTagger

variable {σ : Type}

/-- A session that does nothing on other sockets, and does not wait on behalf of others. -/
structure SessionRun.KeepsTo (i : Nat) (r : SessionRun σ) : Prop where
  events : ∀ k, k ≠ i → opsOn k r.events = []
  waiting : ∀ name, ∀ p ∈ r.work.stop.waiting? name, p.rest.connection.socket.id = i

theorem SessionRun.Alike.keepsTo {i j : Nat} {r s : SessionRun σ} (h : SessionRun.Alike i j r s) :
    r.KeepsTo i := by
  refine ⟨fun k hk => h.events.opsOn_of_ne hk, ?_⟩
  intro name p hp
  obtain ⟨es, stop⟩ := r
  obtain ⟨fs, stop'⟩ := s
  obtain ⟨-, hstop⟩ := h
  cases hstop with
  | ended result => cases result <;> cases hp
  | parked gate hpending =>
    cases hp
    exact hpending.left

variable [Peer σ]

theorem Session.resume_keepsTo (p : Pending σ) :
    (Session.resume p).KeepsTo p.connection.socket.id := (resume_alike (.refl p)).keepsTo

theorem Session.handle_keepsTo (settings : Settings) (classifier : Classifier) (channel : String)
    (id : Value) (now : Double) (socket : Socket σ) (a : Address) :
    (Session.handle settings classifier channel id now socket a).KeepsTo socket.id :=
  (handle_alike (.refl socket) settings classifier channel channel id id now now a a).keepsTo

namespace Server

def held (i : Nat) (w : Workers (Pending σ)) : List (Waiting (Pending σ)) :=
  w.waiting.filter (·.rest.connection.socket.id = i)

def goOn (p : Pending σ) : Work (Pending σ) := (Session.resume p).work

/-- What those of some threads do on socket `i` that wait at a gate, when it opens. -/
def opened (i : Nat) (gate : String) (ps : List (Waiting (Pending σ))) : List SocketOp :=
  (ps.filter (·.gate = gate)).flatMap fun p => opsOn i (goOn p.rest).events

/-- Which threads wait after a gate has opened. -/
def remaining (gate : String) (ps : List (Waiting (Pending σ))) : List (Waiting (Pending σ)) :=
  ps.filter (·.gate ≠ gate) ++ (ps.filter (·.gate = gate)).filterMap (Waiting.next? goOn)

theorem opened_self (i : Nat) (p : Waiting (Pending σ)) :
    opened i p.gate [p] = opsOn i (goOn p.rest).events := by
  simp [opened]

theorem remaining_self (p : Waiting (Pending σ)) :
    remaining p.gate [p] = (p.next? goOn).toList := by
  cases hnext : p.next? goOn <;> simp [remaining, hnext]

theorem opened_of_ne (i : Nat) {p : Waiting (Pending σ)} {gate : String} (h : p.gate ≠ gate) :
    opened i gate [p] = [] := by
  simp [opened, h]

theorem remaining_of_ne {p : Waiting (Pending σ)} {gate : String} (h : p.gate ≠ gate) :
    remaining gate [p] = [p] := by
  simp [remaining, h]

theorem filter_filterMap_of_keeps {α : Type} {q : α → Bool} {f : α → Option α}
    (h : ∀ a, ∀ b ∈ f a, q b = q a) (as : List α) :
    (as.filterMap f).filter q = (as.filter q).filterMap f := by
  rw [List.filter_filterMap, List.filterMap_filter]
  congr 1
  funext a
  have ha := h a
  cases hf : f a with
  | none => simp
  | some b =>
    rw [hf] at ha
    have hq := ha b rfl
    simp [Option.filter, hq]

theorem flatMap_filter_of_keeps {α β : Type} {q : α → Bool} {f : α → List β}
    (h : ∀ a, q a = false → f a = []) (as : List α) : (as.filter q).flatMap f = as.flatMap f := by
  induction as with
  | nil => rfl
  | cons a as ih =>
    cases ha : q a with
    | true => rw [List.filter_cons_of_pos ha, List.flatMap_cons, List.flatMap_cons, ih]
    | false =>
      rw [List.filter_cons_of_neg (by simp [ha]), List.flatMap_cons, h a ha, List.nil_append, ih]

/-- What is done on one socket when a gate opens, and who of its sessions waits afterwards, is a matter
of its own sessions. -/
theorem openGate_eq (w : Workers (Pending σ)) (gate : String) (i : Nat) :
    opsOn i (openGate w gate).1 = opened i gate (held i w) ∧
      held i (openGate w gate).2 = remaining gate (held i w) := by
  obtain ⟨hsockets, hwaiting, -⟩ := w.release_eq goOn gate
  constructor
  · have hothers : ∀ p : Waiting (Pending σ), decide (p.rest.connection.socket.id = i) = false →
        opsOn i (goOn p.rest).events = [] := by
      intro p hp
      have hne : i ≠ p.rest.connection.socket.id := Ne.symm (of_decide_eq_false hp)
      exact (Session.resume_keepsTo p.rest).events i hne
    have hshown : sockets (openGate w gate).1 = _ := hsockets
    rw [opsOn, hshown, List.filterMap_flatMap, opened, held, List.filter_comm,
      flatMap_filter_of_keeps hothers]
    rfl
  · have hkeeps : ∀ p : Waiting (Pending σ), ∀ q ∈ p.next? goOn,
        decide (q.rest.connection.socket.id = i) = decide (p.rest.connection.socket.id = i) := by
      intro p q hq
      rw [(Session.resume_keepsTo p.rest).waiting p.name q hq]
    have hgone : (openGate w gate).2.waiting = _ := hwaiting
    rw [remaining, held, hgone, List.filter_append, filter_filterMap_of_keeps hkeeps, held,
      List.filter_comm (fun p : Waiting (Pending σ) => decide (p.gate ≠ gate)),
      List.filter_comm (fun p : Waiting (Pending σ) => decide (p.gate = gate))]

omit [Peer σ] in
theorem sockets_turnAway (s : Server σ) (socket : Socket σ) (a : Address) :
    sockets (s.turnAway socket a).events = [(socket.id, .close)] := by
  rw [turnAway, Run.log, Run.emit_bind, Socket.close, Socket.act, Run.emit_bind]
  cases socket.closeFault <;> rfl

/-- What handing over a client can come to: it is turned away, a session of its own serves it, or no
thread can be started for it. -/
inductive Dispatches (s : Server σ) (w : Workers (Pending σ)) (socket : Socket σ) (a : Address)
    (o : Handover (Workers (Pending σ))) : Prop where
  | turnedAway (hfull : w.capacity.isFull = .ok true)
      (hsockets : sockets o.run.events = [(socket.id, .close)])
      (hwaiting : o.state.waiting = w.waiting)
  | served (hfull : w.capacity.isFull = .ok false) (hgood : w.badStarts.contains w.starts = false)
      {r : SessionRun σ} {id : Value} {name : String}
      (hr : r = Session.handle s.settings s.classifier s.channel id s.now socket a)
      (hsockets : sockets o.run.events = sockets r.events)
      (hwaiting : o.state.waiting = w.waiting ++ (r.work.stop.waiting? name).toList)
      (hresult : o.run.result = .ok ())
  | failed (hnot : w.capacity.isFull ≠ .ok true)
      (hbad : w.capacity.isFull = .ok false → w.badStarts.contains w.starts = true)
      (hsockets : sockets o.run.events = []) (hwaiting : o.state.waiting = w.waiting)

theorem dispatches (s : Server σ) (w : Workers (Pending σ)) (socket : Socket σ) (a : Address) :
    Dispatches s w socket a (s.dispatch w socket a) := by
  rw [dispatch]
  have hspawns := w.spawns (.text ("session-" ++ a.pair)) (s.session socket a)
  generalize w.spawn (.text ("session-" ++ a.pair)) (s.session socket a) = run at hspawns ⊢
  cases hspawns with
  | incomparable hfull =>
    refine .failed ?_ ?_ rfl rfl
    · rw [hfull]
      exact fun h => nomatch h
    · rw [hfull]
      exact fun h => nomatch h
  | refused hfull =>
    refine .turnedAway hfull ?_ rfl
    exact sockets_turnAway s socket a
  | unstarted hfull hbad =>
    refine .failed ?_ (fun _ => hbad) rfl rfl
    rw [hfull]
    exact fun h => nomatch h
  | @started v hfull hgood hv n k =>
    subst hv
    refine .served hfull hgood rfl ?_ (Workers.waiting_settle _ n _) rfl
    exact (sockets_append _ _).trans ((List.append_nil _).trans (Workers.sockets_settle _ n _))

omit [Peer σ] in
theorem held_eq {v w : Workers (Pending σ)} (h : v.waiting = w.waiting) (i : Nat) :
    held i v = held i w := by
  rw [held, h, held]

/-- Handing over a client is no matter of other sockets. -/
theorem dispatch_other (s : Server σ) (w : Workers (Pending σ)) (socket : Socket σ) (a : Address)
    {k : Nat} (hk : k ≠ socket.id) :
    opsOn k (s.dispatch w socket a).run.events = [] ∧
      held k (s.dispatch w socket a).state = held k w := by
  have hcases := s.dispatches w socket a
  generalize s.dispatch w socket a = o at hcases ⊢
  cases hcases with
  | turnedAway _ hsockets hwaiting =>
    refine ⟨?_, held_eq hwaiting k⟩
    have hclose : sockets o.run.events = [SocketOp.close].map (Prod.mk socket.id) := hsockets
    rw [opsOn_of_sockets hclose, if_neg hk.symm]
  | @served _ _ r id name hr hsockets hwaiting =>
    have hkeeps : r.KeepsTo socket.id := hr ▸ Session.handle_keepsTo _ _ _ _ _ socket a
    refine ⟨?_, ?_⟩
    · rw [opsOn_congr hsockets, hkeeps.events k hk]
    · rw [held, hwaiting, List.filter_append, held]
      cases hnext : r.work.stop.waiting? name with
      | none => exact List.append_nil _
      | some p =>
        have hid := hkeeps.waiting name p hnext
        have hother : p.rest.connection.socket.id ≠ k := hid ▸ hk.symm
        simp [hother]
  | failed _ _ hsockets hwaiting => exact ⟨opsOn_of_quiet hsockets k, held_eq hwaiting k⟩

variable {s : Server σ} {r₀ r : Reception (Workers (Pending σ))} {es : List Event}
  {vs : List (Reception (Workers (Pending σ)) × Visit σ)}

open Reception

/-- What a visit does on one socket when the client that it brings is another one. -/
theorem visit_other {v : Visit σ} {d : Call σ (Workers (Pending σ))} (hcall : call? (r, v) = some d)
    {k : Nat} (hk : k ≠ d.socket.id) :
    opsOn k (visit s.host r v).1 = [] ∧ held k (visit s.host r v).2.2.state = held k r.state := by
  obtain ⟨-, hbefore, hafter, -⟩ := visit_of_call s.host hcall
  obtain ⟨hops, hheld⟩ := s.dispatch_other d.state d.socket d.address hk
  constructor
  · rw [opsOn_visit s.host hcall, if_neg fun h => hk h.1.symm, List.append_nil]
    exact hops
  · rw [hafter, ← hbefore]
    exact hheld

/-- What a visit does on one socket when it brings no client. -/
theorem visit_alone {v : Visit σ} (hcall : call? (r, v) = none) (k : Nat) :
    (∃ gate, opsOn k (visit s.host r v).1 = opened k gate (held k r.state) ∧
        held k (visit s.host r v).2.2.state = remaining gate (held k r.state)) ∨
      opsOn k (visit s.host r v).1 = [] ∧ held k (visit s.host r v).2.2.state = held k r.state := by
  rw [opsOn_visit_of_no_call s.host hcall]
  obtain ⟨-, ⟨gate, -, hforeign, hafter⟩ | ⟨hforeign, hafter⟩⟩ := visit_of_no_call s.host hcall
  · obtain ⟨hops, hheld⟩ := openGate_eq r.state gate k
    refine .inl ⟨gate, ?_, ?_⟩
    · rw [hforeign]
      exact hops
    · rw [hafter]
      exact hheld
  · refine .inr ⟨?_, ?_⟩
    · rw [hforeign]
      rfl
    · rw [hafter]

/-- Nothing is done on a socket whose client was not handed over yet. -/
theorem untouched (past : History s.host r₀ es vs r) (hstart : r₀.state.waiting = []) {k : Nat}
    (hk : ∀ c ∈ vs.filterMap call?, k ≠ c.socket.id) : opsOn k es = [] ∧ held k r.state = [] := by
  induction past with
  | start =>
    refine ⟨rfl, ?_⟩
    rw [held, hstart]
    rfl
  | apart _ hquiet _ ih =>
    obtain ⟨hops, hheld⟩ := ih hk
    rw [opsOn_append, hops, opsOn_of_quiet hquiet]
    exact ⟨rfl, hheld⟩
  | @visit es vs r _ v ih =>
    rw [List.filterMap_append] at hk
    obtain ⟨hops, hheld⟩ := ih fun c hc => hk c (List.mem_append_left _ hc)
    rw [opsOn_append, hops, List.nil_append]
    cases hcall : call? (r, v) with
    | some d =>
      have hd : d ∈ [(r, v)].filterMap call? := by simp [hcall]
      obtain ⟨hnone, hsame⟩ := visit_other (s := s) hcall (hk d (List.mem_append_right _ hd))
      exact ⟨hnone, hsame.trans hheld⟩
    | none =>
      obtain ⟨gate, hopened, hremaining⟩ | ⟨hnone, hsame⟩ := visit_alone (s := s) hcall k
      · rw [hopened, hremaining, hheld]
        exact ⟨rfl, rfl⟩
      · exact ⟨hnone, hsame.trans hheld⟩

/-- What becomes of one client is decided when it is handed over and each time that a gate opens. -/
theorem each_client (past : History s.host r₀ es vs r) (hstart : r₀.state.waiting = [])
    {P : List SocketOp → List (Waiting (Pending σ)) → Prop} {c : Call σ (Workers (Pending σ))}
    (hc : c ∈ vs.filterMap call?)
    (hbirth : held c.socket.id c.state = [] →
      P (opsOn c.socket.id (c.handover s.host).run.events ++
          if c.abandons s.host then [.close] else [])
        (held c.socket.id (c.handover s.host).state))
    (hopen : ∀ ops ps gate, P ops ps → P (ops ++ opened c.socket.id gate ps) (remaining gate ps)) :
    P (opsOn c.socket.id es) (held c.socket.id r.state) := by
  induction past with
  | start => cases hc
  | apart _ hquiet _ ih =>
    rw [opsOn_append, opsOn_of_quiet hquiet, List.append_nil]
    exact ih hc
  | @visit es vs r past v ih =>
    rw [List.filterMap_append, List.mem_append] at hc
    rw [opsOn_append]
    cases hcall : call? (r, v) with
    | none =>
      have hbefore : c ∈ vs.filterMap call? := by simpa [hcall] using hc
      obtain ⟨gate, hopened, hremaining⟩ | ⟨hnone, hsame⟩ :=
        visit_alone (s := s) hcall c.socket.id
      · rw [hopened, hremaining]
        exact hopen _ _ gate (ih hbefore)
      · rw [hnone, hsame, List.append_nil]
        exact ih hbefore
    | some d =>
      obtain ⟨hid, hbefore, hafter, -⟩ := visit_of_call s.host hcall
      -- the client of this visit has a number that no client before it had
      have hne : ∀ b ∈ vs.filterMap call?, b.socket.id ≠ d.socket.id := by
        intro b hb
        have hless := past.id_lt hb
        omega
      obtain hold | hnew := hc
      · obtain ⟨hnone, hsame⟩ := visit_other (s := s) hcall (hne c hold)
        rw [hnone, hsame, List.append_nil]
        exact ih hold
      · have hd : c = d := by simpa [hcall] using hnew
        subst hd
        obtain ⟨hops, hheld⟩ := untouched past hstart fun b hb => (hne b hb).symm
        rw [hops, List.nil_append, opsOn_visit s.host hcall, hafter]
        simp only [true_and]
        exact hbirth (hbefore ▸ hheld)

theorem alike_of_client {l : Life σ} (h : Lived s l) {c : Call σ (Workers (Pending σ))}
    (hc : c ∈ l.clients) : Workers.Alike c.state s.reception.state := by
  refine h.history.invariant_of_call (I := fun w => Workers.Alike w s.reception.state)
    ⟨rfl, rfl⟩ ?_ ?_ hc
  · intro w socket a hw
    exact (Workers.alike_spawn w _ _).trans hw
  · intro w gate hw
    obtain ⟨-, -, halike⟩ := w.release_eq goOn gate
    exact halike.trans hw

end Server

end LineTagger
