import LineTagger.Proofs.Trace
import LineTagger.Session
import Mathlib.Tactic.SplitIfs

/-!
Sessions that go the same way. A session over one socket and a session over another, with the same peer
and the same faults behind them, do the same on their sockets, whatever their numbers, their channels of
the log, the identifiers of their connections and the times of day.
-/

namespace LineTagger

variable {σ : Type}

/-- Events over one socket and events over another: the operations and the stages are the same, and
there are no operations on other sockets. -/
structure Mirrors (i j : Nat) (es fs : List Event) : Prop where
  ops : ∃ ops : List SocketOp, sockets es = ops.map (Prod.mk i) ∧ sockets fs = ops.map (Prod.mk j)
  stages : stages es = stages fs

namespace Mirrors

variable {i j : Nat} {es fs es' fs' : List Event}

theorem quiet (hes : sockets es = []) (hfs : sockets fs = [])
    (hstages : LineTagger.stages es = LineTagger.stages fs) : Mirrors i j es fs :=
  ⟨⟨[], hes, hfs⟩, hstages⟩

theorem append (h : Mirrors i j es fs) (h' : Mirrors i j es' fs') :
    Mirrors i j (es ++ es') (fs ++ fs') := by
  obtain ⟨ops, hes, hfs⟩ := h.ops
  obtain ⟨ops', hes', hfs'⟩ := h'.ops
  refine ⟨⟨ops ++ ops', ?_, ?_⟩, ?_⟩
  · rw [sockets_append, hes, hes', List.map_append]
  · rw [sockets_append, hfs, hfs', List.map_append]
  · rw [stages_append, stages_append, h.stages, h'.stages]

theorem cons {e f : Event} (he : Mirrors i j [e] [f]) (h : Mirrors i j es fs) :
    Mirrors i j (e :: es) (f :: fs) := he.append h

theorem socket (op : SocketOp) : Mirrors i j [.socket i op] [.socket j op] := ⟨⟨[op], rfl, rfl⟩, rfl⟩

theorem opsOn_eq (h : Mirrors i j es fs) : opsOn i es = opsOn j fs := by
  obtain ⟨ops, hes, hfs⟩ := h.ops
  rw [opsOn_of_sockets hes, opsOn_of_sockets hfs, if_pos rfl, if_pos rfl]

theorem opsOn_of_ne (h : Mirrors i j es fs) {k : Nat} (hk : k ≠ i) : opsOn k es = [] := by
  obtain ⟨ops, hes, -⟩ := h.ops
  rw [opsOn_of_sockets hes, if_neg hk.symm]

end Mirrors

namespace Run

variable {α β : Type} {i j : Nat}

/-- Runs that do the same on their sockets and come to the same result. -/
structure Alike (i j : Nat) (r s : Run α) : Prop where
  events : Mirrors i j r.events s.events
  result : r.result = s.result

namespace Alike

theorem pure (a : α) : Alike i j (Pure.pure a) (Pure.pure a) := ⟨.quiet rfl rfl rfl, rfl⟩

theorem fail (f : Fault) : Alike i j (Run.fail f : Run α) (Run.fail f) := ⟨.quiet rfl rfl rfl, rfl⟩

theorem ofExcept (r : Except Fault α) : Alike i j (Run.ofExcept r) (Run.ofExcept r) :=
  ⟨.quiet rfl rfl rfl, rfl⟩

theorem emit {e f : Event} (h : Mirrors i j [e] [f]) : Alike i j (Run.emit e) (Run.emit f) := ⟨h, rfl⟩

theorem log (channel channel' : String) (level level' : Level) (m m' : String) :
    Alike i j (Run.log channel level m) (Run.log channel' level' m') := emit (.quiet rfl rfl rfl)

theorem guardFault (f : Option Fault) : Alike i j (Run.guardFault f) (Run.guardFault f) := by
  cases f with
  | none => exact pure ()
  | some f => exact fail f

theorem bind {r s : Run α} {f g : α → Run β} (h : Alike i j r s) (hnext : ∀ a, Alike i j (f a) (g a)) :
    Alike i j (r >>= f) (s >>= g) := by
  obtain ⟨es, result⟩ := r
  obtain ⟨fs, result'⟩ := s
  obtain ⟨hevents, rfl⟩ := h
  cases result with
  | error e => exact ⟨hevents, rfl⟩
  | ok a => exact ⟨hevents.append (hnext a).events, (hnext a).result⟩

theorem attempt {r s : Run α} (h : Alike i j r s) : Alike i j r.attempt s.attempt :=
  ⟨h.events, congrArg Except.ok h.result⟩

end Alike

end Run

/-- Sockets with the same peer and the same faults. -/
structure Socket.Alike (s t : Socket σ) : Prop where
  peer : s.peer = t.peer
  timeoutFault : s.timeoutFault = t.timeoutFault
  sendFault : s.sendFault = t.sendFault
  shutdownFault : s.shutdownFault = t.shutdownFault
  closeFault : s.closeFault = t.closeFault

/-- An operation that both sockets let pass or let fail. -/
theorem Socket.alike_act (s t : Socket σ) (op : SocketOp) (f : Option Fault) :
    Run.Alike s.id t.id (s.act op f) (t.act op f) :=
  .bind (.emit (.socket op)) fun _ => .guardFault f

/-- Connections over alike sockets that read and write in the same way, and tell their ages or cannot. -/
structure Connection.Alike (c d : Connection σ) : Prop where
  socket : c.socket.Alike d.socket
  charset : c.charset = d.charset
  bufferSize : c.bufferSize = d.bufferSize
  maxLineBytes : c.maxLineBytes = d.maxLineBytes
  stage : c.stage = d.stage
  age : ∀ now now', (c.age now).map (fun _ => ()) = (d.age now').map fun _ => ()

theorem Socket.Alike.refl (s : Socket σ) : s.Alike s := ⟨rfl, rfl, rfl, rfl, rfl⟩

theorem Connection.Alike.refl (c : Connection σ) : c.Alike c := by
  refine ⟨.refl _, rfl, rfl, rfl, rfl, fun now now' => ?_⟩
  simp only [Connection.age]
  cases c.createdAt.quantity? with
  | none => rfl
  | some _ => cases Reading.real c.createdAt <;> rfl

/-- Stretches of reading that show the same, leave their peers the same and stop in the same way. -/
structure LineReading.Alike {α : Type} (i j : Nat) (r s : LineReading σ α) : Prop where
  events : Mirrors i j r.events s.events
  peer : r.peer = s.peer
  stop : r.stop = s.stop

namespace Connection

variable {c d : Connection σ}

theorem gatherFrom_alike [Peer σ] (h : c.Alike d) (fuel : Nat) (bytes : Bytes) (count : Nat) (s : σ) :
    LineReading.Alike c.socket.id d.socket.id (c.gatherFrom fuel bytes count s)
      (d.gatherFrom fuel bytes count s) := by
  -- both ask for bytes as often, and their peers stay the same
  induction fuel generalizing bytes count s with
  | zero => exact ⟨.quiet rfl rfl rfl, rfl, by rw [gatherFrom, gatherFrom, h.maxLineBytes]⟩
  | succ fuel ih =>
    rw [gatherFrom, gatherFrom, ← h.bufferSize, ← h.maxLineBytes]
    cases hreceive : Peer.receive s c.bufferSize with
    | mk delivery t =>
      cases delivery with
      | waits gate => exact ⟨.quiet rfl rfl rfl, rfl, rfl⟩
      | fault f => exact ⟨.quiet rfl rfl rfl, rfl, rfl⟩
      | bytes chunk =>
        dsimp only
        split_ifs with hlast
        · exact ⟨.quiet rfl rfl rfl, rfl, rfl⟩
        · cases hlimit : Limit.exceeds (count + chunk.length : Nat) c.maxLineBytes with
          | error f => exact ⟨.quiet rfl rfl rfl, rfl, rfl⟩
          | ok exceeded =>
            cases exceeded with
            | true => exact ⟨.quiet rfl rfl rfl, rfl, rfl⟩
            | false =>
              have hrest := ih (chunk.reverseAux bytes) (count + chunk.length) t
              exact ⟨.cons (.socket _) hrest.events, hrest.peer, hrest.stop⟩

theorem gather_alike [Peer σ] (h : c.Alike d) (b : LineBuffer) :
    LineReading.Alike c.socket.id d.socket.id (c.gather b) (d.gather b) := by
  rw [gather, gather, ← h.socket.peer]
  exact gatherFrom_alike h b.fuel b.bytes b.count c.socket.peer

theorem gatherLine_alike [Peer σ] (h : c.Alike d) :
    LineReading.Alike c.socket.id d.socket.id c.gatherLine d.gatherLine := by
  have hrequests : c.requests = d.requests := by
    rw [requests, requests, h.maxLineBytes, h.socket.peer]
  have hgather := gather_alike h ⟨c.requests, [], 0⟩
  rw [gatherLine, gatherLine, ← hrequests, ← h.bufferSize]
  exact ⟨.cons (.quiet rfl rfl rfl) (.cons (.socket _) hgather.events), hgather.peer, hgather.stop⟩

theorem decoded_alike (h : c.Alike d) {r s : LineReading σ Bytes}
    (hr : LineReading.Alike c.socket.id d.socket.id r s) :
    LineReading.Alike c.socket.id d.socket.id (c.decoded r) (d.decoded s) :=
  ⟨hr.events, hr.peer, by simp only [decoded, hr.stop, h.charset]⟩

theorem sendLine_alike (h : c.Alike d) (v : Value) :
    Run.Alike c.socket.id d.socket.id (c.sendLine v) (d.sendLine v) := by
  rw [sendLine, sendLine, h.charset]
  refine .bind (.emit (.quiet rfl rfl rfl)) fun _ => .bind (.ofExcept _) fun bs => ?_
  rw [Socket.send, Socket.send, ← h.socket.sendFault]
  exact Socket.alike_act c.socket d.socket (.send bs) c.socket.sendFault

theorem tolerate_alike {i j : Nat} {step step' : Run Unit} {told told' : Fault → Run Unit}
    (hstep : Run.Alike i j step step') (htold : ∀ f, Run.Alike i j (told f) (told' f)) :
    Run.Alike i j (tolerate step told) (tolerate step' told') := by
  refine .bind hstep.attempt fun result => ?_
  cases result with
  | ok _ => exact .pure ()
  | error f =>
    dsimp only
    split_ifs
    · exact htold f
    · exact .fail f

theorem release_alike (h : c.Alike d) :
    Run.Alike c.socket.id d.socket.id c.release d.release := by
  have hshutdown := Socket.alike_act c.socket d.socket .shutdown c.socket.shutdownFault
  have hclose := Socket.alike_act c.socket d.socket .close c.socket.closeFault
  refine .bind (.emit (.quiet rfl rfl rfl)) fun _ => .bind (tolerate_alike ?_ ?_) fun _ =>
    tolerate_alike ?_ ?_
  · rw [Socket.shutdown, Socket.shutdown, ← h.socket.shutdownFault]
    exact hshutdown
  · exact fun _ => .emit (.quiet rfl rfl rfl)
  · rw [Socket.close, Socket.close, ← h.socket.closeFault]
    exact hclose
  · exact fun _ => .emit (.quiet rfl rfl rfl)

theorem close_alike (h : c.Alike d) (now now' : Double) :
    Run.Alike c.socket.id d.socket.id (c.close now) (d.close now') := by
  have hage := h.age now now'
  rw [close, close, ← h.stage]
  generalize c.age now = age at hage ⊢
  generalize d.age now' = age' at hage ⊢
  split_ifs
  · exact .pure ()
  · refine .bind (release_alike h) fun _ => .bind (.emit (.quiet rfl rfl rfl)) fun _ => ?_
    cases age with
    | ok _ =>
      cases age' with
      | ok _ => exact .emit (.quiet rfl rfl rfl)
      | error f => cases hage
    | error f =>
      cases age' with
      | ok _ => cases hage
      | error g =>
        cases hage
        exact .fail f

/-- The stage after events depends on the stages among them alone. -/
theorem stageAfter_eq (before : Stage) (es : List Event) :
    stageAfter before es = (stages es).foldl (fun _ t => t) before := by
  induction es generalizing before with
  | nil => rfl
  | cons e es ih => cases e <;> exact ih _

theorem closing_alike (h : c.Alike d) (now now' : Double) {α : Type} {body body' : Run α}
    (hbody : Run.Alike c.socket.id d.socket.id body body') :
    Run.Alike c.socket.id d.socket.id (c.closing now body) (d.closing now' body') := by
  refine .bind hbody.attempt fun result => .bind ?_ fun _ => .ofExcept result
  have hstage : stageAfter c.stage body.events = stageAfter d.stage body'.events := by
    rw [stageAfter_eq, stageAfter_eq, hbody.events.stages, h.stage]
  exact close_alike (c := { c with stage := stageAfter c.stage body.events })
    (d := { d with stage := stageAfter d.stage body'.events })
    ⟨h.socket, h.charset, h.bufferSize, h.maxLineBytes, hstage, h.age⟩ now now'

end Connection

/-- Services that ask the same classifier in the same way. -/
structure Service.Alike (s t : Service) : Prop where
  classifier : s.classifier = t.classifier
  outputFormat : s.outputFormat = t.outputFormat
  preserveSpacing : s.preserveSpacing = t.preserveSpacing

/-- Sessions over sockets `i` and `j` that wait in the same place. -/
structure Pending.Alike (i j : Nat) (p q : Pending σ) : Prop where
  connection : p.connection.Alike q.connection
  service : p.service.Alike q.service
  buffer : p.buffer = q.buffer
  left : p.connection.socket.id = i
  right : q.connection.socket.id = j

theorem Pending.Alike.refl (p : Pending σ) :
    p.Alike p.connection.socket.id p.connection.socket.id p :=
  ⟨.refl _, ⟨rfl, rfl, rfl⟩, rfl, rfl, rfl⟩

inductive SessionStop.Alike (i j : Nat) : SessionStop σ → SessionStop σ → Prop where
  | ended (r : Except Fault Outcome) : Alike i j (.ended r) (.ended r)
  | parked (gate : String) {p q : Pending σ} (h : Pending.Alike i j p q) :
      Alike i j (.parked gate p) (.parked gate q)

/-- Stretches of sessions over sockets `i` and `j` that do the same and stop in the same way. -/
structure SessionRun.Alike (i j : Nat) (r s : SessionRun σ) : Prop where
  events : Mirrors i j r.events s.events
  stop : SessionStop.Alike i j r.stop s.stop

theorem SessionRun.Alike.after {i j : Nat} {r s : SessionRun σ} (h : SessionRun.Alike i j r s)
    {es fs : List Event} (hes : Mirrors i j es fs) :
    SessionRun.Alike i j (r.after es) (s.after fs) := ⟨hes.append h.events, h.stop⟩

theorem SessionRun.alike_ofRun {i j : Nat} {r s : Run Outcome} (h : Run.Alike i j r s) :
    SessionRun.Alike (σ := σ) i j (.ofRun r) (.ofRun s) := by
  refine ⟨h.events, ?_⟩
  rw [ofRun, ofRun, h.result]
  exact .ended _

namespace Session

variable {c d : Connection σ} {s t : Service}

theorem readFailed_alike (c d : Connection σ) (s t : Service) (f : Fault) :
    Run.Alike c.socket.id d.socket.id (readFailed c s f) (readFailed d t f) := by
  unfold readFailed
  split_ifs
  · exact .bind (.log ..) fun _ => .pure _
  · exact .bind (.log ..) fun _ => .pure _
  · exact .bind (.log ..) fun _ => .pure _
  · exact .bind (.emit (.quiet rfl rfl rfl)) fun _ => .pure _
  · exact .fail f

theorem writeFailed_alike (c d : Connection σ) (s t : Service) (f : Fault) :
    Run.Alike c.socket.id d.socket.id (writeFailed c s f) (writeFailed d t f) := by
  unfold writeFailed
  split_ifs
  · exact .bind (.log ..) fun _ => .pure _
  · exact .bind (.log ..) fun _ => .pure _
  · exact .fail f

theorem respond_alike (h : c.Alike d) (s t : Service) (v : Value) :
    Run.Alike c.socket.id d.socket.id (respond c s v) (respond d t v) := by
  refine .bind (.log ..) fun _ => .bind (Connection.sendLine_alike h v).attempt fun result => ?_
  cases result with
  | ok _ => exact .pure _
  | error f => exact writeFailed_alike c d s t f

theorem serveLine_alike (h : c.Alike d) (hs : s.Alike t) (line : List Char) :
    Run.Alike c.socket.id d.socket.id (serveLine c s line) (serveLine d t line) := by
  refine .bind (.log ..) fun _ => .bind (.emit (.quiet rfl rfl rfl)) fun _ =>
    .bind (.emit (.quiet rfl rfl rfl)) fun _ => ?_
  rw [← hs.classifier, ← hs.outputFormat, ← hs.preserveSpacing]
  cases s.classifier.annotate line s.outputFormat s.preserveSpacing with
  | error f => exact .bind (.emit (.quiet rfl rfl rfl)) fun _ => .pure _
  | ok v => exact respond_alike h s t v

theorem serve_alike (h : c.Alike d) (hs : s.Alike t) (read : Except Fault (Option (List Char))) :
    Run.Alike c.socket.id d.socket.id (serve c s read) (serve d t read) := by
  unfold serve
  split
  · exact readFailed_alike c d s t _
  · exact .bind (.log ..) fun _ => .pure _
  · exact .bind (.log ..) fun _ => .pure _
  · exact serveLine_alike h hs _

theorem afterReading_alike (h : c.Alike d) (hs : s.Alike t) {r r' : LineReading σ (List Char)}
    (hr : LineReading.Alike c.socket.id d.socket.id r r') :
    SessionRun.Alike c.socket.id d.socket.id (afterReading c s r) (afterReading d t r') := by
  have hafter : (c.afterReading r).Alike (d.afterReading r') :=
    ⟨⟨hr.peer, h.socket.timeoutFault, h.socket.sendFault, h.socket.shutdownFault,
      h.socket.closeFault⟩, h.charset, h.bufferSize, h.maxLineBytes, rfl, h.age⟩
  rw [afterReading, afterReading, ← hr.stop]
  cases r.stop with
  | parked gate buffer =>
    exact ⟨hr.events.append (.quiet rfl rfl rfl), .parked gate ⟨hafter, hs, rfl, rfl, rfl⟩⟩
  | done read =>
    have hserve := serve_alike hafter hs read
    exact (SessionRun.alike_ofRun (Connection.closing_alike hafter s.now t.now hserve)).after hr.events

theorem run_alike [Peer σ] (h : c.Alike d) (hs : s.Alike t) :
    SessionRun.Alike c.socket.id d.socket.id (run c s) (run d t) := by
  have hread := Connection.decoded_alike h (Connection.gatherLine_alike h)
  exact (afterReading_alike h hs hread).after (.quiet rfl rfl rfl)

theorem resume_alike [Peer σ] {i j : Nat} {p q : Pending σ} (h : Pending.Alike i j p q) :
    SessionRun.Alike i j (resume p) (resume q) := by
  have hgather := Connection.gather_alike h.connection p.buffer
  have hread := Connection.decoded_alike h.connection hgather
  have hafter := afterReading_alike h.connection h.service hread
  rw [h.left, h.right] at hafter
  rw [resume, resume, ← h.buffer]
  exact hafter

theorem setupFailed_alike {socket socket' : Socket σ} (h : socket.Alike socket')
    (address address' : Address) (channel channel' : String) (f : Fault) :
    Run.Alike socket.id socket'.id (setupFailed socket address channel f)
      (setupFailed socket' address' channel' f) := by
  have hclose := Socket.alike_act socket socket' .close socket.closeFault
  rw [setupFailed, setupFailed]
  split_ifs
  · refine .bind (.emit (.quiet rfl rfl rfl)) fun _ => .bind (Connection.tolerate_alike ?_ ?_) fun _ =>
      .pure _
    · rw [Socket.close, Socket.close, ← h.closeFault]
      exact hclose
    · exact fun _ => .emit (.quiet rfl rfl rfl)
  · exact .fail f

/-- What a session does on its socket depends on the settings, the classifier, the peer and the faults
behind the socket. -/
theorem handle_alike [Peer σ] {socket socket' : Socket σ} (h : socket.Alike socket')
    (settings : Settings) (classifier : Classifier) (channel channel' : String) (id id' : Value)
    (now now' : Double) (address address' : Address) :
    SessionRun.Alike socket.id socket'.id
      (handle settings classifier channel id now socket address)
      (handle settings classifier channel' id' now' socket' address') := by
  have hc : (connectionOf settings socket address channel id now).Alike
      (connectionOf settings socket' address' channel' id' now') :=
    ⟨h, rfl, rfl, rfl, rfl, fun _ _ => rfl⟩
  have hs : (serviceOf settings classifier channel now).Alike
      (serviceOf settings classifier channel' now') := ⟨rfl, rfl, rfl⟩
  have hsetup : Run.Alike socket.id socket'.id
      (socket.act (.setTimeout settings.readTimeout) socket.timeoutFault)
      (socket'.act (.setTimeout settings.readTimeout) socket'.timeoutFault) := by
    rw [← h.timeoutFault]
    exact Socket.alike_act socket socket' _ _
  have hresult := hsetup.result
  simp only [handle, Connection.start, Socket.setTimeout, connectionOf] at hresult ⊢
  rw [← hresult]
  split
  · exact (SessionRun.alike_ofRun (setupFailed_alike h address address' channel channel' _)).after
      hsetup.events
  · exact (run_alike hc hs).after hsetup.events

end Session

end LineTagger
