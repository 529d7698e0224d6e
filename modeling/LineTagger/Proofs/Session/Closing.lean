import LineTagger.Proofs.Session.Course

/-!
A session from its socket to its close: what it shows around its course. The socket is given back
whatever came of the course.
-/

namespace LineTagger

variable {σ : Type}

namespace Connection

/-- An operation whose failure is only told of, and what is shown of it. -/
theorem tolerate_act (s : Socket σ) (op : SocketOp) {f : Option Fault}
    (hf : ∀ g ∈ f, g.isSystem = true) (told : Fault → Event) :
    tolerate (s.act op f) (fun g => Run.emit (told g)) =
      ⟨.socket s.id op :: (f.map told).toList, .ok ()⟩ := by
  cases f with
  | none => rfl
  | some g =>
    have hg : g.isSystem = true := hf g rfl
    simp only [tolerate, Socket.act, Run.guardFault, Run.emit_bind, Run.attempt_bind, Run.fail, hg,
      if_true]
    rfl

def closeEvents (c : Connection σ) (age : Double) : List Event :=
  [.stage c.socket.id .closing, .socket c.socket.id .shutdown] ++
    (c.socket.shutdownFault.map c.shutdownFailed).toList ++
    .socket c.socket.id .close :: (c.socket.closeFault.map c.closeFailed).toList ++
    [.stage c.socket.id .closed, c.closedEvent age]

theorem release_eq (c : Connection σ) (hshutdown : ∀ f ∈ c.socket.shutdownFault, f.isSystem = true)
    (hclose : ∀ f ∈ c.socket.closeFault, f.isSystem = true) :
    c.release = ⟨[.stage c.socket.id .closing, .socket c.socket.id .shutdown] ++
      (c.socket.shutdownFault.map c.shutdownFailed).toList ++
      .socket c.socket.id .close :: (c.socket.closeFault.map c.closeFailed).toList, .ok ()⟩ := by
  simp only [release, Socket.shutdown, Socket.close, tolerate_act _ _ hshutdown,
    tolerate_act _ _ hclose, Run.emit_bind, Run.mk_ok_bind, List.cons_append, List.nil_append]

theorem close_eq (c : Connection σ) (hstage : c.stage ≠ .closed)
    (hshutdown : ∀ f ∈ c.socket.shutdownFault, f.isSystem = true)
    (hclose : ∀ f ∈ c.socket.closeFault, f.isSystem = true) {t : Double}
    (hage : c.createdAt = .double t) (now : Double) :
    c.close now = ⟨c.closeEvents (now.sub t), .ok ()⟩ := by
  have hnow : c.age now = .ok (now.sub t) := by
    simp only [age, hage, Value.quantity?, Reading.real]
    rfl
  rw [close, if_neg hstage, release_eq c hshutdown hclose, Run.mk_ok_bind, hnow, Run.emit_bind,
    Run.ofExcept_ok_bind]
  simp [closeEvents, Run.emit]

/-- What is done with a connection comes out as it is, and the connection is closed after it. -/
theorem closing_eq (c : Connection σ) {α : Type} (body : Run α)
    (hstage : stageAfter c.stage body.events ≠ .closed)
    (hshutdown : ∀ f ∈ c.socket.shutdownFault, f.isSystem = true)
    (hclose : ∀ f ∈ c.socket.closeFault, f.isSystem = true) {t : Double}
    (hage : c.createdAt = .double t) (now : Double) :
    c.closing now body = ⟨body.events ++ c.closeEvents (now.sub t), body.result⟩ := by
  rw [closing, Run.attempt_bind]
  have hclosed := close_eq { c with stage := stageAfter c.stage body.events } hstage hshutdown hclose
    hage now
  simp only [hclosed, Run.mk_ok_bind, Run.ofExcept, List.append_nil]
  rfl

end Connection

namespace Session

open Connection

theorem Course.stageAfter_ne_closed {c : Connection σ} {s : Service}
    {read : Except Fault (Option (List Char))} {r : Run Outcome} (h : Course c s read r)
    {before : Stage} (hbefore : before ≠ .closed) : stageAfter before r.events ≠ .closed := by
  cases h with
  | unread | unreadable | noInput => simpa [stageAfter] using hbefore
  | unclassified | unencoded | unencodable | unsent | unsendable | responded =>
    simp [stageAfter, asking, answering]

/-- A session that has read its line takes its course and closes the connection. -/
theorem afterReading_eq (c : Connection σ) (s : Service) (r : LineReading σ (List Char))
    {read : Except Fault (Option (List Char))} (hread : r.stop = .done read)
    (hshutdown : ∀ f ∈ c.socket.shutdownFault, f.isSystem = true)
    (hclose : ∀ f ∈ c.socket.closeFault, f.isSystem = true) {t : Double}
    (hage : c.createdAt = .double t) :
    afterReading c s r =
      ⟨r.events ++ (serve (c.afterReading r) s read).events ++ c.closeEvents (s.now.sub t),
        .ended (serve (c.afterReading r) s read).result⟩ := by
  have hcourse := course_serve (c.afterReading r) s read
  have hreading : (c.afterReading r).stage ≠ .closed := by simp [Connection.afterReading]
  have hstage := hcourse.stageAfter_ne_closed hreading
  have hclosing := closing_eq (c.afterReading r) (serve (c.afterReading r) s read) hstage hshutdown
    hclose hage s.now
  simp only [afterReading, hread, hclosing, SessionRun.ofRun, SessionRun.after, List.append_assoc]
  rfl

section

variable [Peer σ] {settings : Settings} {classifier : Classifier} {channel : String} {id : Value}
  {now : Double} {socket : Socket σ} {address : Address}

/-- A socket whose time limit cannot be set is closed, and that is all. -/
theorem handle_of_timeoutFault {f : Fault} (h : socket.timeoutFault = some f)
    (hf : f.isSystem = true) (hclose : ∀ f ∈ socket.closeFault, f.isSystem = true) :
    handle settings classifier channel id now socket address =
      ⟨[.socket socket.id (.setTimeout settings.readTimeout), setupFailedEvent address channel f,
        .socket socket.id .close] ++ (socket.closeFault.map (closeFailed channel)).toList,
        .ended (.ok .readError)⟩ := by
  have hstart : (connectionOf settings socket address channel id now).start settings.readTimeout =
      ⟨[.socket socket.id (.setTimeout settings.readTimeout)], .error f⟩ := by
    simp only [start, connectionOf, Socket.setTimeout, Socket.act, Run.emit_bind, h, Run.guardFault]
    rfl
  simp only [handle, hstart, setupFailed, hf, if_true, Run.emit_bind, Socket.close,
    tolerate_act _ _ hclose, Run.mk_ok_bind, SessionRun.ofRun, SessionRun.after, Run.events_pure,
    Run.result_pure, List.append_nil, List.cons_append, List.nil_append]

theorem handle_of_start (h : socket.timeoutFault = none) :
    handle settings classifier channel id now socket address =
      (run (connectionOf settings socket address channel id now)
        (serviceOf settings classifier channel now)).after
        [.socket socket.id (.setTimeout settings.readTimeout)] := by
  have hstart : (connectionOf settings socket address channel id now).start settings.readTimeout =
      ⟨[.socket socket.id (.setTimeout settings.readTimeout)], .ok ()⟩ := by
    simp only [start, connectionOf, Socket.setTimeout, Socket.act, Run.emit_bind, h, Run.guardFault]
    rfl
  simp only [handle, hstart]

/-- A socket that is set up is served: the session shows what it does while reading, then one of its
courses, then the closing, and the result is that of the course. -/
theorem handle_course (h : socket.timeoutFault = none) {c : Connection σ}
    (hc : c = connectionOf settings socket address channel id now) {s : Service}
    (hs : s = serviceOf settings classifier channel now) {read : Except Fault (Option (List Char))}
    (hread : c.readLine.stop = .done read) (hshutdown : ∀ f ∈ socket.shutdownFault, f.isSystem = true)
    (hclose : ∀ f ∈ socket.closeFault, f.isSystem = true) :
    ∃ r, Course (c.afterReading c.readLine) s read r ∧
      handle settings classifier channel id now socket address =
        ⟨.socket socket.id (.setTimeout settings.readTimeout) :: createdEvent c s ::
          (c.readLine.events ++ r.events ++ c.closeEvents (now.sub now)), .ended r.result⟩ := by
  subst hc hs
  have hrun := afterReading_eq (connectionOf settings socket address channel id now)
    (serviceOf settings classifier channel now) _ hread hshutdown hclose rfl
  refine ⟨_, course_serve _ _ read, ?_⟩
  rw [handle_of_start h, run, hrun]
  rfl

end

end Session

end LineTagger
