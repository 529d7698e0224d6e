import LineTagger.Proofs.Reception.Lifecycle
import LineTagger.Proofs.Server.Life

/-!
How a server comes to stop. A fault that escapes from accepting clients is never one of the system, so
that the failure to listen comes from binding alone; and a server that stops without a fault was asked
to stop.
-/

namespace LineTagger

variable {σ τ : Type}

theorem Fault.isSystem_of_isBind {f : Fault} (h : f.isBind = true) : f.isSystem = true := by
  cases f with
  | bind => rfl
  | _ => cases h

namespace Reception

variable {f : Fault}

theorem not_isSystem_of_closeQuietly {channel : String} {s : Socket σ}
    (h : (closeQuietly channel s).result = .error f) : f.isSystem = false := by
  simp only [closeQuietly, Socket.close, Socket.act, Run.emit_bind, Run.attempt_bind] at h
  cases hfault : s.closeFault with
  | none =>
    rw [hfault] at h
    cases h
  | some g =>
    simp only [hfault, Run.guardFault, Run.fail] at h
    split at h
    · cases h
    · next hg =>
      cases h
      simpa using hg

/-- What escapes is neither of the system nor of the running program, also when it comes of closing a
client. -/
theorem not_isSystem_of_meet {l : Listener} {client : Option (Socket σ)} {g : Fault}
    (h : (meet l client g).2 = .escapes f) : f.isSystem = false := by
  unfold meet at h
  split at h
  · cases h
  · split at h
    · split at h
      · cases h
      · split at h
        · cases h
        · dsimp only at h
          split at h
          · cases h
          · next hclose =>
            cases h
            exact not_isSystem_of_closeQuietly hclose
    · next hpassing =>
      cases h
      simp only [Bool.or_eq_true, not_or, Bool.not_eq_true] at hpassing
      exact hpassing.1

theorem stopping_of_meet {l : Listener} {client : Option (Socket σ)} {g : Fault}
    (h : (meet l client g).2 = .leaves) : l.stopping = true := by
  unfold meet at h
  split at h
  · cases h
  · split at h
    · split at h
      · next hstop => exact hstop
      · split at h
        · cases h
        · dsimp only at h
          split at h <;> cases h
    · cases h

section

variable {h : Host σ τ} {r : Reception τ}

/-- A visit that ends a loop lets a fault escape that is not of the system, or finds the listener asked
to stop. -/
theorem verdict_cases (v : Visit σ) :
    (∀ f, (visit h r v).2.1 = .escapes f → f.isSystem = false) ∧
      ((visit h r v).2.1 = .leaves → (visit h r v).2.2.listener.stopping = true) := by
  cases v with
  | release gate => simp [visit]
  | arrival signal stops fault client =>
    cases fault with
    | some f =>
      simp only [visit, await]
      exact ⟨fun _ => not_isSystem_of_meet, stopping_of_meet⟩
    | none =>
      cases client with
      | none =>
        simp only [visit, await]
        exact ⟨fun _ => not_isSystem_of_meet, stopping_of_meet⟩
      | some sa =>
        obtain ⟨l, hl⟩ : ∃ l, l = (disturb r.listener signal stops).2 := ⟨_, rfl⟩
        simp only [visit, await, receive, ← hl]
        generalize h.handle r.state { sa.1 with id := r.accepted } sa.2 = o
        cases o.run.result with
        | ok _ => simp
        | error f => exact ⟨fun _ => not_isSystem_of_meet, stopping_of_meet⟩

theorem not_isSystem_of_loop {visits : List (Visit σ)} (hresult : (loop h r visits).result = .error f) :
    f.isSystem = false := by
  induction visits generalizing r with
  | nil =>
    rw [loop_nil] at hresult
    split at hresult <;> cases hresult
  | cons v visits ih =>
    rw [loop_cons] at hresult
    split at hresult
    · cases hresult
    · have hverdict := (verdict_cases (h := h) (r := r) v).1
      generalize visit h r v = step at hverdict hresult
      obtain ⟨events, verdict, r'⟩ := step
      cases verdict with
      | goesOn => exact ih hresult
      | leaves => cases hresult
      | escapes g =>
        cases hresult
        exact hverdict f rfl

/-- A loop that ends without a fault was asked to stop: during one of the visits it took, or when no more
of them were to come. -/
theorem asked_of_loop {visits : List (Visit σ)} (hgoing : r.listener.stopping = false)
    (hresult : (loop h r visits).result = .ok ()) :
    (loop h r visits).reception.listener.stopping = true ∧
      ((∃ y ∈ taken h r visits, asks h y.1 y.2 = true) ∨
        ∃ n, .listener n .acceptEnd ∈ (loop h r visits).events) := by
  induction visits generalizing r with
  | nil =>
    rw [loop_nil, hgoing]
    exact ⟨rfl, .inr ⟨_, List.mem_singleton.2 rfl⟩⟩
  | cons v visits ih =>
    have hleaves := (verdict_cases (h := h) (r := r) v).2
    have hlistener := listener_visit h r v
    have hasked (hstop : (visit h r v).2.2.listener.stopping = true) : asks h r v = true := by
      rwa [hlistener, Listener.stopping_stopIf, hgoing, Bool.false_or] at hstop
    rw [loop_cons, hgoing, if_neg Bool.false_ne_true] at hresult ⊢
    rw [taken, hgoing, if_neg Bool.false_ne_true]
    generalize visit h r v = step at hleaves hasked hresult ⊢
    obtain ⟨events, verdict, r'⟩ := step
    cases verdict with
    | escapes g => cases hresult
    | leaves => exact ⟨hleaves rfl, .inl ⟨_, List.mem_cons_self, hasked (hleaves rfl)⟩⟩
    | goesOn =>
      cases hstop : r'.listener.stopping with
      | true => exact ⟨stopping_loop h hstop visits, .inl ⟨_, List.mem_cons_self, hasked hstop⟩⟩
      | false =>
        obtain ⟨hstopped, ⟨y, hy, hasks⟩ | ⟨n, hn⟩⟩ := ih hstop hresult
        · exact ⟨hstopped, .inl ⟨y, List.mem_cons_of_mem _ hy, hasks⟩⟩
        · exact ⟨hstopped, .inr ⟨n, List.mem_append_right _ hn⟩⟩

end

end Reception

namespace Listener

variable {l : Listener} {f : Fault}

theorem not_isSystem_of_cleanup (h : l.cleanup.1.result = .error f) : f.isSystem = false := by
  unfold cleanup at h
  dsimp only at h
  split at h
  · cases h
  · next hclosed =>
    split at h
    · cases h
    · next hg =>
      rw [hclosed] at h
      cases h
      simpa using hg

/-- A listener that was bound is bound without further ado. -/
theorem bind_bind {a : Address} (h : l.bind.1.result = .ok a) :
    l.bind.2.bind = (pure l.bind.2.address, l.bind.2) := by
  have hheld : ∃ n, l.bind.2.held = some n := by
    cases hheld : l.held with
    | some n => exact ⟨n, by simp only [bind, hheld]⟩
    | none =>
      cases hmade : (l.make l.attempts).result with
      | error f =>
        simp only [bind, hheld, hmade] at h
        cases h
      | ok _ =>
        simp only [bind, hheld, hmade]
        split <;> exact ⟨_, rfl⟩
  obtain ⟨n, hn⟩ := hheld
  generalize l.bind.2 = k at hn ⊢
  rw [bind, hn]

end Listener

namespace Reception

variable {h : Host σ τ} {r : Reception τ} {onMain : Bool} {visits : List (Visit σ)} {a : Address}
  (hbound : r.listener.bind.1.result = .ok a)

include hbound

theorem result_serve (h : Host σ τ) (onMain : Bool) (visits : List (Visit σ)) :
    (serve h r onMain visits).result =
      ((loop h (r.opened onMain) visits).reception.listener.cleanup.1.result >>= fun _ =>
        (loop h (r.opened onMain) visits).result) := by
  simp only [serve, hbound, opened]
  split <;> (next hcleanup => rw [hcleanup]; rfl)

theorem not_isSystem_of_serve {f : Fault} (hresult : (serve h r onMain visits).result = .error f) :
    f.isSystem = false := by
  rw [result_serve hbound] at hresult
  obtain hcleanup | ⟨_, -, hloop⟩ := bind_eq_error hresult
  · exact Listener.not_isSystem_of_cleanup hcleanup
  · exact not_isSystem_of_loop hloop

theorem asked_of_serve (hgoing : r.listener.stopping = false)
    (hresult : (serve h r onMain visits).result = .ok ()) :
    (serve h r onMain visits).reception.listener.stopping = true ∧
      ((∃ y ∈ served h r onMain visits, asks h y.1 y.2 = true) ∨
        ∃ n, .listener n .acceptEnd ∈ (serve h r onMain visits).events) := by
  obtain ⟨-, -, -, hopened⟩ := r.frame_opened onMain
  rw [result_serve hbound] at hresult
  obtain ⟨_, -, hloop⟩ := bind_eq_ok.1 hresult
  obtain ⟨hstopped, hasked⟩ := asked_of_loop (hopened.trans hgoing) hloop
  obtain ⟨hfailed, -⟩ | ⟨body, rfl, hevents, hreception⟩ := serve_cases h r onMain visits
  · simp [hbound, Except.isOk, Except.toBool] at hfailed
  · have hserved : served h r onMain visits = taken h (r.opened onMain) visits := by
      simp only [served, hbound, opened]
    rw [hevents, hreception, hserved]
    refine ⟨(Listener.stopping_cleanup _).trans hstopped, hasked.imp_right ?_⟩
    rintro ⟨n, hn⟩
    exact ⟨n, List.mem_append_right _ (List.mem_append_left _ hn)⟩

end Reception

namespace Server

variable [Peer σ] {s : Server σ} {onMain : Bool} {visits : List (Visit σ)}

omit [Peer σ] in
theorem bind_of_start {a : Address} (h : s.start.1.result = .ok a) :
    ∃ b, s.start.2.reception.listener.bind.1.result = .ok b := by
  have hbound := Listener.bind_bind (l := s.reception.listener) h
  exact ⟨_, congrArg (fun x => x.1.result) hbound⟩

/-- A server that fails to listen fails before it serves. -/
theorem events_of_isBind {f : Fault} (hresult : (s.run onMain visits).1.result = .error f)
    (hf : f.isBind = true) : (s.run onMain visits).1.events = s.start.1.events := by
  cases hstart : s.start.1.result with
  | error g => simp only [run, hstart]
  | ok a =>
    simp only [run, hstart] at hresult
    obtain ⟨b, hbound⟩ := bind_of_start hstart
    have hsystem := Reception.not_isSystem_of_serve hbound hresult
    rw [Fault.isSystem_of_isBind hf] at hsystem
    cases hsystem

/-- A server that stops without a fault was asked to: during one of the visits it took, or when no more
of them were to come. -/
theorem asked_of_run (hgoing : s.reception.listener.stopping = false)
    (hresult : (s.run onMain visits).1.result = .ok ()) :
    (s.run onMain visits).2.1.reception.listener.stopping = true ∧
      ((∃ y ∈ s.takes (.run onMain visits), Reception.asks s.host y.1 y.2 = true) ∨
        ∃ n, .listener n .acceptEnd ∈ (s.run onMain visits).1.events) := by
  cases hstart : s.start.1.result with
  | error g =>
    simp only [run, hstart] at hresult
    cases hresult
  | ok a =>
    simp only [run, hstart] at hresult
    obtain ⟨b, hbound⟩ := bind_of_start hstart
    have hstill : s.start.2.reception.listener.stopping = false :=
      (Listener.frame_bind _).2.2.2.2.trans hgoing
    obtain ⟨hstopped, hasked⟩ := Reception.asked_of_serve hbound hstill hresult
    simp only [run, takes, hstart]
    refine ⟨hstopped, hasked.imp_right ?_⟩
    rintro ⟨n, hn⟩
    exact ⟨n, List.mem_append_right _ (List.mem_cons_of_mem _ hn)⟩

end Server

end LineTagger
