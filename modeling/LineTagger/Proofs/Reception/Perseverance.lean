import LineTagger.Proofs.Reception.Waits

/-!
An accept loop never gives up, and it loses no client. As long as what goes wrong is of the system or of
the running program, the loop waits again after every visit until somebody asks the listener to stop,
and it hands over every client that came, once and in the order of their coming.
-/

namespace LineTagger

variable {σ τ : Type}

/-- Whether a fault concerns one client, and not the program that serves it. -/
def Fault.IsPassing (f : Fault) : Prop := f.isSystem = true ∨ f.isRuntime = true

/-- A host that fails with passing faults only. -/
def Host.IsMild (h : Host σ τ) : Prop :=
  ∀ w s a f, (h.handle w s a).run.result = .error f → f.IsPassing

theorem Host.IsMild.booking {h : Host σ τ} (hh : h.IsMild) : h.booking.IsMild := fun w => hh w.1

/-- A visit whose fault is a passing one, and whose client the system may refuse to close. -/
structure Visit.IsMild (v : Visit σ) : Prop where
  fault : ∀ f ∈ v.fault?, f.IsPassing
  close : ∀ c ∈ v.client?, ∀ f ∈ c.1.closeFault, f.isSystem = true

namespace Reception

/-- Clients with their numbers, from `n` on. -/
def numbered (n : Nat) : Book σ → Book σ
  | [] => []
  | (s, a) :: cs => ({ s with id := n }, a) :: numbered (n + 1) cs

theorem result_closeQuietly (channel : String) {s : Socket σ}
    (hclose : ∀ f ∈ s.closeFault, f.isSystem = true) : (closeQuietly channel s).result = .ok () := by
  simp only [closeQuietly, Socket.close, Socket.act, Run.emit_bind, Run.attempt_bind]
  cases hfault : s.closeFault with
  | none => rfl
  | some f =>
    have hsystem := hclose f hfault
    simp only [Run.guardFault, Run.fail, hsystem, if_true]
    rfl

/-- A passing fault lets the loop go on, unless the listener is to stop. -/
theorem verdict_meet (l : Listener) (client : Option (Socket σ))
    (hclose : ∀ s ∈ client, ∀ f ∈ s.closeFault, f.isSystem = true) {f : Fault} (hf : f.IsPassing) :
    (meet l client f).2 = .goesOn ∨ (meet l client f).2 = .leaves ∧ l.stopping = true := by
  have hcaught : (f.isSystem || f.isRuntime) = true := by simpa [Fault.IsPassing] using hf
  unfold meet
  rw [if_pos hcaught]
  split
  · exact .inl rfl
  · split
    · next hstop => exact .inr ⟨rfl, hstop⟩
    · cases client with
      | none => exact .inl rfl
      | some s =>
        left
        simp only [result_closeQuietly l.channel (hclose s rfl)]

theorem verdict_receive {h : Host σ τ} (hh : h.IsMild) (r : Reception τ) {s : Socket σ} (a : Address)
    (hclose : ∀ f ∈ s.closeFault, f.isSystem = true) :
    (receive h r s a).2.1 = .goesOn ∨
      (receive h r s a).2.1 = .leaves ∧ (receive h r s a).2.2.listener.stopping = true := by
  have hpassing := hh r.state s a
  simp only [receive]
  generalize h.handle r.state s a = o at hpassing ⊢
  cases hresult : o.run.result with
  | ok _ => exact .inl rfl
  | error f => exact verdict_meet _ (some s) (by simpa using hclose) (hpassing f hresult)

/-- A mild visit lets the loop go on, unless the listener is to stop. -/
theorem verdict_visit {h : Host σ τ} (hh : h.IsMild) (r : Reception τ) {v : Visit σ} (hv : v.IsMild) :
    (visit h r v).2.1 = .goesOn ∨
      (visit h r v).2.1 = .leaves ∧ (visit h r v).2.2.listener.stopping = true := by
  cases v with
  | release gate => exact .inl rfl
  | arrival signal stops fault client =>
    cases fault with
    | some f =>
      have hnone : ∀ s ∈ (none : Option (Socket σ)), ∀ f ∈ s.closeFault, f.isSystem = true := by simp
      exact verdict_meet _ none hnone (hv.fault f rfl)
    | none =>
      cases client with
      | none => exact .inl rfl
      | some sa => exact verdict_receive hh _ _ (hv.close sa rfl)

/-- The client of a visit is written down with the next number. -/
theorem book_visit (h : Host σ τ) (r : Reception (τ × Book σ)) (v : Visit σ) :
    (visit h.booking r v).2.2.state.2 = r.state.2 ++ numbered r.accepted v.client?.toList ∧
      (visit h.booking r v).2.2.accepted = r.accepted + v.client?.toList.length := by
  cases v with
  | release gate => exact ⟨(List.append_nil _).symm, rfl⟩
  | arrival signal stops fault client =>
    cases fault with
    | some f => exact ⟨(List.append_nil _).symm, rfl⟩
    | none =>
      cases client with
      | none => exact ⟨(List.append_nil _).symm, rfl⟩
      | some sa =>
        obtain ⟨-, hstate, haccepted⟩ := receive_eq h.booking { r with
          listener := (disturb r.listener signal stops).2, accepted := r.accepted + 1 }
          { sa.1 with id := r.accepted } sa.2 rfl
        exact ⟨congrArg Prod.snd hstate, haccepted⟩

theorem numbered_append (n : Nat) (cs ds : Book σ) :
    numbered n (cs ++ ds) = numbered n cs ++ numbered (n + cs.length) ds := by
  induction cs generalizing n with
  | nil => rfl
  | cons c cs ih =>
    rw [List.cons_append, numbered, ih, numbered, List.length_cons, List.cons_append,
      Nat.add_right_comm, Nat.add_assoc]

/-- An accept loop that took some visits and gave nothing up. -/
structure Perseveres (h : Host σ τ) (r : Reception (τ × Book σ)) (past : List (Visit σ))
    (run : ReceptionRun σ (τ × Book σ)) : Prop where
  /-- no fault escapes -/
  result : run.result = .ok ()
  /-- the loop is over just when the listener is to stop -/
  stopping : run.reception.listener.stopping = true
  /-- every client that came was handed over, once, in the order of their coming, as it came -/
  book : run.reception.state.2 = r.state.2 ++ numbered r.accepted (past.filterMap Visit.client?)
  /-- there was one wait for each arrival, and one more when nobody asked the listener to stop and no
  more visits were to come -/
  waits : waits run.events =
    past.countP Visit.isArrival + (!(r.listener.stopping || asked h.booking r past)).toNat
  /-- no visit was taken once somebody had asked the listener to stop -/
  prompt : ∀ earlier v later, past = earlier ++ v :: later →
    r.listener.stopping = false ∧ asked h.booking r earlier = false
  /-- no visit was left as long as nobody had asked -/
  eager : run.visits ≠ [] → (r.listener.stopping || asked h.booking r past) = true

section

variable {h : Host σ τ} {r : Reception (τ × Book σ)} {v : Visit σ} {visits : List (Visit σ)}

/-- A loop that is over before it begins. -/
theorem perseveres_nil (hstop : r.listener.stopping = true) :
    Perseveres h r [] ⟨[], .ok (), r, visits⟩ where
  result := rfl
  stopping := hstop
  book := (List.append_nil _).symm
  waits := by
    rw [hstop]
    rfl
  prompt earlier v later hparts := by simp at hparts
  eager _ := by rw [hstop, Bool.true_or]

theorem perseveres_leaves (hh : h.KeepsOff) (hgoing : r.listener.stopping = false)
    (hstop : (visit h.booking r v).2.2.listener.stopping = true) :
    Perseveres h r [v] ⟨(visit h.booking r v).1, .ok (), (visit h.booking r v).2.2, visits⟩ := by
  have hasks : asks h.booking r v = true := by simpa [listener_visit, hgoing] using hstop
  refine ⟨rfl, hstop, ?_, ?_, ?_, ?_⟩
  · rw [(book_visit h r v).1]
    cases hclient : v.client? <;> simp [hclient]
  · rw [waits_visit hh.booking, asked, hasks, List.countP_singleton]
    cases v.isArrival <;> simp
  · intro earlier w later hparts
    obtain ⟨rfl, -⟩ := List.append_eq_singleton_iff.1 hparts.symm |>.resolve_right (by simp)
    exact ⟨hgoing, rfl⟩
  · intro _
    rw [asked, hasks, Bool.true_or, Bool.or_true]

theorem Perseveres.cons (hh : h.KeepsOff) (hgoing : r.listener.stopping = false)
    {past : List (Visit σ)} {run : ReceptionRun σ (τ × Book σ)}
    (hrun : Perseveres h (visit h.booking r v).2.2 past run) :
    Perseveres h r (v :: past) (run.after (visit h.booking r v).1) := by
  have hasked : (r.listener.stopping || asked h.booking r (v :: past)) =
      ((visit h.booking r v).2.2.listener.stopping ||
        asked h.booking (visit h.booking r v).2.2 past) := by
    rw [listener_visit, asked, Listener.stopping_stopIf, Bool.or_assoc]
  obtain ⟨hbook, haccepted⟩ := book_visit h r v
  refine ⟨hrun.result, hrun.stopping, ?_, ?_, ?_, ?_⟩
  · have hclients : (v :: past).filterMap Visit.client? =
        v.client?.toList ++ past.filterMap Visit.client? := by
      cases hclient : v.client? <;> simp [hclient]
    rw [hclients, numbered_append, ← haccepted, ← List.append_assoc, ← hbook]
    exact hrun.book
  · rw [hasked, List.countP_cons, Nat.add_right_comm, ← hrun.waits]
    refine (waits_append (visit h.booking r v).1 run.events).trans ?_
    rw [waits_visit hh.booking, Nat.add_comm]
    cases v.isArrival <;> rfl
  · intro earlier w later hparts
    cases earlier with
    | nil => exact ⟨hgoing, rfl⟩
    | cons u earlier =>
      obtain ⟨rfl, hrest⟩ := List.cons.inj hparts
      obtain ⟨hstop, hbefore⟩ := hrun.prompt earlier w later hrest
      rw [listener_visit, Listener.stopping_stopIf, Bool.or_eq_false_iff] at hstop
      exact ⟨hgoing, by rw [asked, hstop.2, hbefore, Bool.or_false]⟩
  · intro hleft
    rw [hasked]
    exact hrun.eager hleft

end

/-- Whatever happens while clients are accepted, an accept loop gives nothing up: it hands over every
client that comes, and it waits for the next one until somebody asks the listener to stop. -/
theorem loop_perseveres {h : Host σ τ} (hmild : h.IsMild) (hoff : h.KeepsOff)
    (r : Reception (τ × Book σ)) {visits : List (Visit σ)} (hvisits : ∀ v ∈ visits, v.IsMild) :
    ∃ past, visits = past ++ (loop h.booking r visits).visits ∧
      Perseveres h r past (loop h.booking r visits) := by
  -- on the visits that are still to come
  induction visits generalizing r with
  | nil =>
    refine ⟨[], ?_⟩
    rw [loop_nil]
    cases hstop : r.listener.stopping with
    | true => exact ⟨rfl, perseveres_nil hstop⟩
    | false =>
      refine ⟨rfl, rfl, rfl, (List.append_nil _).symm, ?_, ?_, ?_⟩
      · rw [hstop]
        rfl
      · intro earlier v later hparts
        simp at hparts
      · intro hleft
        exact absurd rfl hleft
  | cons v visits ih =>
    rw [loop_cons]
    cases hstop : r.listener.stopping with
    | true => exact ⟨[], rfl, perseveres_nil hstop⟩
    | false =>
      have hverdict := verdict_visit hmild.booking r (hvisits v List.mem_cons_self)
      have hnext (past : List (Visit σ)) (run : ReceptionRun σ (τ × Book σ))
          (hrun : Perseveres h (visit h.booking r v).2.2 past run) :
          Perseveres h r (v :: past) (run.after (visit h.booking r v).1) := hrun.cons hoff hstop
      have hlast (hstopped : (visit h.booking r v).2.2.listener.stopping = true) :
          Perseveres h r [v] ⟨(visit h.booking r v).1, .ok (), (visit h.booking r v).2.2, visits⟩ :=
        perseveres_leaves hoff hstop hstopped
      rw [if_neg Bool.false_ne_true]
      generalize visit h.booking r v = step at hverdict hnext hlast ⊢
      obtain ⟨events, verdict, r'⟩ := step
      cases verdict with
      | goesOn =>
        obtain ⟨past, hparts, hrun⟩ := ih r' fun u hu => hvisits u (List.mem_cons_of_mem _ hu)
        exact ⟨v :: past, congrArg (List.cons v) hparts, hnext past _ hrun⟩
      | leaves =>
        obtain ⟨-, hstopped⟩ := hverdict.resolve_left (by simp)
        exact ⟨[v], rfl, hlast hstopped⟩
      | escapes f => simp at hverdict

/-- A wait that fails, a client that runs into a deadline, one that is refused and cannot be closed, and
one as whose handing over fails the listener is asked to stop: each is handed over, and no client after
them is waited for. -/
theorem loop_perseveres_trouble :
    let fault : Nat → Fault
      | 0 => .system .timeout []
      | 1 => .runtime []
      | _ => .system .brokenPipe []
    let h : Host Script Nat := ⟨fun n _ _ => ⟨.fail (fault n), n = 2, n + 1⟩, fun n _ => ([], n)⟩
    let r : Reception (Nat × Book Script) := ⟨.ofSettings { port := .int 0 } "", 0, 0, []⟩
    let client : Visit Script :=
      .arrival none false none (some (⟨0, {}, none, none, none, some (.system .other [])⟩, default))
    let failed : Visit Script := .arrival none false (some (.system .other [])) none
    let run := loop h.booking r [failed, client, client, client, client]
    run.result = .ok () ∧ run.reception.state.2.map (fun c => c.1.id) = [0, 1, 2] ∧
      waits run.events = 4 ∧ run.visits = [client] := by
  intro fault h r client failed run
  have hmild : h.IsMild := by
    rintro (_ | _ | n) s a f hf <;> obtain rfl := Except.error.inj hf
    · exact .inl rfl
    · exact .inr rfl
    · exact .inl rfl
  have hoff : h.KeepsOff := ⟨fun _ _ _ => rfl, fun _ _ => rfl⟩
  have hfailed : failed.IsMild := ⟨by rintro f ⟨⟩; exact .inl rfl, by simp [failed, Visit.client?]⟩
  have hclient : client.IsMild := ⟨by simp [client, Visit.fault?], by rintro c ⟨⟩ f ⟨⟩; rfl⟩
  have hvisits : ∀ v ∈ [failed, client, client, client, client], v.IsMild := by
    simp [hfailed, hclient]
  obtain ⟨past, hparts, hrun⟩ := loop_perseveres hmild hoff r hvisits
  have hleft : run.visits = [client] := rfl
  have hpast : [failed, client, client, client] = past := by
    rw [hleft] at hparts
    have hboth : [failed, client, client, client] ++ [client] = past ++ [client] := hparts
    exact List.append_cancel_right hboth
  subst hpast
  refine ⟨hrun.result, ?_, hrun.waits, hleft⟩
  rw [hrun.book]
  rfl

end Reception

end LineTagger
