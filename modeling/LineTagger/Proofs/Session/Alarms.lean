import LineTagger.Proofs.Server.Isolation
import LineTagger.Proofs.Session.Discipline

/-!
What a session tells the operator. A session that ends with an outcome raises one alarm if the outcome is
a failure and one more if its socket could not be closed, and no other.
-/

namespace LineTagger

open Connection

variable {σ : Type}

/-- Whether an event is a line of the log that is a warning, or more serious than that. -/
def Event.isAlarm : Event → Bool
  | .log _ level _ _ => decide (Level.warning.rank ≤ level.rank)
  | _ => false

/-- How many alarms there are among events. -/
def alarms (es : List Event) : Nat := es.countP Event.isAlarm

def Outcome.isFailure : Outcome → Bool
  | .readError | .classifyError | .writeError => true
  | .responded | .noInput => false

theorem alarms_append (es fs : List Event) : alarms (es ++ fs) = alarms es + alarms fs :=
  List.countP_append

theorem alarms_replicate {e : Event} (h : e.isAlarm = false) (k : Nat) :
    alarms (List.replicate k e) = 0 := by
  rw [alarms, List.countP_eq_zero]
  intro e' he'
  rw [List.eq_of_mem_replicate he', h]
  exact Bool.false_ne_true

/-- When two things in a row come to something, so did the first one, and then the second one. -/
theorem Run.result_bind_eq_ok {α β : Type} {r : Run α} {f : α → Run β} {b : β}
    (h : (r >>= f).result = .ok b) : ∃ a, r.result = .ok a ∧ (f a).result = .ok b := by
  obtain ⟨es, result⟩ := r
  cases result with
  | error e => cases h
  | ok a => exact ⟨a, rfl, h⟩

namespace Connection

variable {c : Connection σ}

theorem alarms_closeEvents (c : Connection σ) (age : Double) :
    alarms (c.closeEvents age) = c.socket.closeFault.isSome.toNat := by
  unfold closeEvents
  cases c.socket.shutdownFault <;> cases c.socket.closeFault <;> rfl

/-- A step of closing that is done failed in the ways of the operating system, if it failed. -/
theorem isSystem_of_tolerate {s : Socket σ} {op : SocketOp} {f : Option Fault} {told : Fault → Run Unit}
    (h : (tolerate (s.act op f) told).result = .ok ()) : ∀ g ∈ f, g.isSystem = true := by
  rintro g rfl
  cases hg : g.isSystem with
  | true => rfl
  | false =>
    simp only [tolerate, Socket.act, Run.guardFault, Run.emit_bind, Run.attempt_bind, Run.fail, hg] at h
    cases h

/-- Closing that is done met with faults of the operating system only. -/
theorem isSystem_of_closing {now : Double} {α : Type} {body : Run α} {a : α}
    (hstage : stageAfter c.stage body.events ≠ .closed) (h : (c.closing now body).result = .ok a) :
    (∀ f ∈ c.socket.shutdownFault, f.isSystem = true) ∧
    ∀ f ∈ c.socket.closeFault, f.isSystem = true := by
  obtain ⟨_, -, h⟩ := Run.result_bind_eq_ok h
  obtain ⟨_, hclose, -⟩ := Run.result_bind_eq_ok h
  rw [close, if_neg hstage] at hclose
  obtain ⟨_, hrelease, -⟩ := Run.result_bind_eq_ok hclose
  obtain ⟨_, -, hrelease⟩ := Run.result_bind_eq_ok hrelease
  obtain ⟨_, hshutdown, hrelease⟩ := Run.result_bind_eq_ok hrelease
  exact ⟨isSystem_of_tolerate hshutdown, isSystem_of_tolerate hrelease⟩

variable [Peer σ]

/-- Reading raises no alarm. -/
theorem alarms_readLine (c : Connection σ) : alarms c.readLine.events = 0 := by
  obtain ⟨k, hk⟩ := c.events_readLine
  have hasked : Event.isAlarm (.socket c.socket.id (.receive c.bufferSize)) = false := rfl
  rw [hk, ← List.singleton_append, alarms_append, alarms_replicate hasked]
  rfl

theorem alarms_readOn (c : Connection σ) (b : LineBuffer) : alarms (c.readOn b).events = 0 := by
  obtain ⟨k, hk⟩ := c.events_gatherFrom b.fuel b.bytes b.count c.socket.peer
  have hasked : Event.isAlarm (.socket c.socket.id (.receive c.bufferSize)) = false := rfl
  have hevents : (c.readOn b).events = _ := hk
  rw [hevents, alarms_replicate hasked]

end Connection

namespace Session

theorem Course.alarms_eq {c : Connection σ} {s : Service} {read : Except Fault (Option (List Char))}
    {r : Run Outcome} (h : Course c s read r) {o : Outcome} (ho : r.result = .ok o) :
    alarms r.events = o.isFailure.toNat := by
  cases h with
  | unreadable | unencodable | unsendable => cases ho
  | unread _ hlevel =>
    cases ho
    obtain rfl | rfl := hlevel <;> rfl
  | noInput | unclassified | unencoded | unsent | responded =>
    cases ho
    rfl

/-- How far the alarms of a session go whose socket has this number and this fault of closing: none
while it waits at a gate, and when it ends with an outcome one for a failure and one for the fault. -/
inductive Told (id : Nat) (closeFault : Option Fault) : SessionRun σ → Prop where
  | ended {es : List Event} {o : Outcome}
      (h : alarms es = o.isFailure.toNat + closeFault.isSome.toNat)
      (hclose : .socket id .close ∈ es) : Told id closeFault ⟨es, .ended (.ok o)⟩
  | escaped {es : List Event} {f : Fault} : Told id closeFault ⟨es, .ended (.error f)⟩
  | parked {es : List Event} {gate : String} {p : Pending σ} {t : Double} (h : alarms es = 0)
      (hid : p.connection.socket.id = id) (hclose : p.connection.socket.closeFault = closeFault)
      (hage : p.connection.createdAt = .double t) : Told id closeFault ⟨es, .parked gate p⟩

variable {id : Nat} {closeFault : Option Fault}

theorem Told.after {r : SessionRun σ} (h : Told id closeFault r) {es : List Event}
    (hes : alarms es = 0) : Told id closeFault (r.after es) := by
  cases h with
  | ended h hclose =>
    refine .ended ?_ (List.mem_append_right es hclose)
    rw [alarms_append, hes, h, Nat.zero_add]
  | escaped => exact .escaped
  | parked h hid hclose hage =>
    refine .parked ?_ hid hclose hage
    rw [alarms_append, hes, h]

/-- What follows reading: the session waits, or takes its course and closes the socket. -/
theorem told_afterReading (c : Connection σ) (s : Service) (r : LineReading σ (List Char))
    (hr : alarms r.events = 0) {t : Double} (hage : c.createdAt = .double t) :
    Told c.socket.id c.socket.closeFault (afterReading c s r) := by
  cases hread : r.stop with
  | parked gate buffer =>
    rw [afterReading, hread]
    refine .parked ?_ rfl rfl hage
    rw [alarms_append, hr]
    rfl
  | done read =>
    obtain ⟨body, hbody⟩ : ∃ body, body = serve (c.afterReading r) s read := ⟨_, rfl⟩
    have hcourse : Course (c.afterReading r) s read body := hbody ▸ course_serve _ s read
    have hreading : (c.afterReading r).stage ≠ .closed := by simp [Connection.afterReading]
    have hstage := hcourse.stageAfter_ne_closed hreading
    have hrun : afterReading c s r = ⟨r.events ++ ((c.afterReading r).closing s.now body).events,
        .ended ((c.afterReading r).closing s.now body).result⟩ := by
      rw [afterReading, hread, hbody]
      rfl
    cases hresult : ((c.afterReading r).closing s.now body).result with
    | error f =>
      rw [hrun, hresult]
      exact .escaped
    | ok o =>
      -- a session with an outcome came through its closing, so both steps of it were tolerated
      obtain ⟨hshutdown, hclose⟩ := isSystem_of_closing hstage hresult
      have hclosed := closing_eq (c.afterReading r) body hstage hshutdown hclose hage s.now
      rw [hclosed] at hrun hresult
      have ho : body.result = .ok o := hresult
      rw [hrun, ho]
      refine .ended ?_ ?_
      · rw [alarms_append, alarms_append, hr, hcourse.alarms_eq ho, alarms_closeEvents, Nat.zero_add]
        rfl
      · simp [closeEvents, Connection.afterReading]

/-- A socket that was given up because its time limit could not be set met with faults of the operating
system only. -/
theorem isSystem_of_setupFailed {socket : Socket σ} {address : Address} {channel : String} {f : Fault}
    {o : Outcome} (h : (setupFailed socket address channel f).result = .ok o) :
    f.isSystem = true ∧ ∀ g ∈ socket.closeFault, g.isSystem = true := by
  unfold setupFailed at h
  split at h
  · next hf =>
    obtain ⟨_, -, h⟩ := Run.result_bind_eq_ok h
    obtain ⟨_, hclose, -⟩ := Run.result_bind_eq_ok h
    exact ⟨hf, isSystem_of_tolerate hclose⟩
  · cases h

variable [Peer σ]

theorem told_run (c : Connection σ) (s : Service) {t : Double} (hage : c.createdAt = .double t) :
    Told c.socket.id c.socket.closeFault (run c s) :=
  (told_afterReading c s c.readLine c.alarms_readLine hage).after rfl

theorem Told.onward {r : SessionRun σ} (h : Told id closeFault r) : Told id closeFault r.onward := by
  cases h with
  | ended h hclose =>
    rw [SessionRun.onward_of_ended rfl]
    exact .ended h hclose
  | escaped =>
    rw [SessionRun.onward_of_ended rfl]
    exact .escaped
  | @parked es gate p t h hid hclose hage =>
    rw [SessionRun.onward_of_parked rfl]
    have hresumed := told_afterReading p.connection p.service _
      (p.connection.alarms_readOn p.buffer) hage
    rw [hid, hclose] at hresumed
    exact hresumed.after h

theorem Told.afterGates {r : SessionRun σ} (h : Told id closeFault r) (gates : Nat) :
    Told id closeFault (r.afterGates gates) := by
  induction gates with
  | zero => exact h
  | succ gates ih => exact ih.onward

section

variable (settings : Settings) (classifier : Classifier) (channel : String) (id : Value)
  (now : Double) (socket : Socket σ) (address : Address)

theorem told_handle : Told socket.id socket.closeFault
    (handle settings classifier channel id now socket address) := by
  cases hfault : socket.timeoutFault with
  | none =>
    rw [handle_of_start hfault]
    have hrun := told_run (connectionOf settings socket address channel id now)
      (serviceOf settings classifier channel now) (t := now) rfl
    exact hrun.after rfl
  | some f =>
    cases hresult : (setupFailed socket address channel f).result with
    | error g =>
      have hhandle : handle settings classifier channel id now socket address =
          (SessionRun.ofRun (setupFailed socket address channel f)).after
            [.socket socket.id (.setTimeout settings.readTimeout)] := by
        simp only [handle, start, connectionOf, Socket.setTimeout, Socket.act, Run.emit_bind, hfault,
          Run.guardFault]
        rfl
      rw [hhandle, SessionRun.ofRun, hresult]
      exact .escaped
    | ok o =>
      obtain ⟨hf, hclose⟩ := isSystem_of_setupFailed hresult
      rw [handle_of_timeoutFault hfault hf hclose]
      refine .ended ?_ (by simp)
      cases socket.closeFault <;> rfl

/-- However often a session waited, when it ends with an outcome it has raised one alarm for a failure
and one more if closing its socket failed, which it attempted; that shutting down failed adds none. -/
theorem handle_alarms (gates : Nat) {o : Outcome}
    (h : ((handle settings classifier channel id now socket address).afterGates gates).stop =
      .ended (.ok o)) :
    alarms ((handle settings classifier channel id now socket address).afterGates gates).events =
      (if o = .readError ∨ o = .classifyError ∨ o = .writeError then 1 else 0) +
      (if socket.closeFault.isSome then 1 else 0) ∧
    .socket socket.id .close ∈
      ((handle settings classifier channel id now socket address).afterGates gates).events := by
  have htold := (told_handle settings classifier channel id now socket address).afterGates gates
  generalize (handle settings classifier channel id now socket address).afterGates gates = r at h htold
  cases htold with
  | escaped => cases h
  | parked => cases h
  | ended halarms hclose =>
    cases h
    refine ⟨?_, hclose⟩
    rw [halarms]
    cases o <;> cases socket.closeFault <;> rfl

end

/-- Reading fails when the gate has opened, and so do both steps of closing. -/
theorem handle_alarms_reset :
    let classifier : Classifier := ⟨"echo", fun line _ _ => .ok (.text (String.ofList line))⟩
    let fault : Fault := .system .reset []
    let socket : Socket Script := {
      id := 0
      peer := { arrivals := [.blocked "open", .fault fault] }
      shutdownFault := some fault
      closeFault := some fault }
    let r := (handle { port := .int 9191 } classifier "" .null default socket default).afterGates 1
    r.stop = .ended (.ok .readError) ∧ alarms r.events = 2 := by
  intro classifier fault socket r
  have h : r.stop = .ended (.ok .readError) := rfl
  exact ⟨h, (handle_alarms { port := .int 9191 } classifier "" .null default socket default 1 h).1⟩

end Session

end LineTagger
