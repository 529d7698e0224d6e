import LineTagger.Application
import LineTagger.Proofs.Gathering
import LineTagger.Proofs.Trace

/-!
What kinds of events the parts of the program show: a session and a dialogue do nothing on a listening
socket and start no thread, loading a model only writes to the log, and binding waits for nobody.
-/

namespace LineTagger

variable {σ α β : Type}

namespace Event

/-- Whether an event opens something: a listening socket, a connection or a thread. -/
def opens : Event → Bool
  | .listener .. | .connect .. | .thread _ => true
  | _ => false

/-- An event that is none of serving: no operation on a listening socket, and no thread. -/
def Aside : Event → Prop
  | .listener .. | .thread _ => False
  | _ => True

def Logs : Event → Prop
  | .log .. => True
  | _ => False

/-- An event that can be one of binding: a line of the log, or an operation on a listening socket that
waits for nobody. -/
def Binds : Event → Prop
  | .log .. => True
  | .listener _ op => op.isWait = false
  | _ => False

end Event

namespace Run

/-- Whatever a run shows has a property. -/
structure Shows (p : Event → Prop) (r : Run α) : Prop where
  each : ∀ e ∈ r.events, p e

namespace Shows

variable {p : Event → Prop} {r : Run α} {f : α → Run β}

theorem pure (a : α) : Shows p (Pure.pure a) := ⟨List.forall_mem_nil p⟩

theorem fail (g : Fault) : Shows p (Run.fail g : Run α) := ⟨List.forall_mem_nil p⟩

theorem ofExcept (x : Except Fault α) : Shows p (Run.ofExcept x) := ⟨List.forall_mem_nil p⟩

theorem emit {e : Event} (h : p e) : Shows p (Run.emit e) := ⟨List.forall_mem_singleton.2 h⟩

theorem guardFault (g : Option Fault) : Shows p (Run.guardFault g) := by
  cases g with
  | none => exact pure ()
  | some g => exact fail g

theorem attempt (h : r.Shows p) : r.attempt.Shows p := ⟨h.each⟩

theorem ite {c : Prop} [Decidable c] {r' : Run α} (h : r.Shows p) (h' : r'.Shows p) :
    (if c then r else r').Shows p := by
  split
  · exact h
  · exact h'

theorem bind (h : r.Shows p) (hnext : ∀ a, (f a).Shows p) : (r >>= f).Shows p := by
  obtain ⟨es, result⟩ := r
  cases result with
  | error g => exact ⟨h.each⟩
  | ok a => exact ⟨List.forall_mem_append.2 ⟨h.each, (hnext a).each⟩⟩

end Shows

end Run

theorem Socket.shows_act (s : Socket σ) (op : SocketOp) (f : Option Fault) :
    (s.act op f).Shows Event.Aside :=
  .bind (.emit trivial) fun _ => .guardFault f

namespace Connection

variable (c : Connection σ)

theorem shows_tolerate {step : Run Unit} {told : Fault → Run Unit}
    (hstep : step.Shows Event.Aside)
    (htold : ∀ f, (told f).Shows Event.Aside) :
    (tolerate step told).Shows Event.Aside := by
  refine .bind hstep.attempt ?_
  rintro (f | _)
  · dsimp only
    split
    · exact htold f
    · exact .fail f
  · exact .pure ()

theorem shows_close (now : Double) : (c.close now).Shows Event.Aside := by
  unfold close
  split
  · exact .pure ()
  · have hrelease : c.release.Shows Event.Aside :=
      .bind (.emit trivial) fun _ =>
        .bind (shows_tolerate (Socket.shows_act ..) fun _ => .emit trivial) fun _ =>
          shows_tolerate (Socket.shows_act ..) fun _ => .emit trivial
    exact .bind hrelease fun _ => .bind (.emit trivial) fun _ => .bind (.ofExcept _) fun _ => .emit trivial

theorem shows_closing (now : Double) {body : Run α} (h : body.Shows Event.Aside) :
    (c.closing now body).Shows Event.Aside :=
  .bind h.attempt fun r => .bind (shows_close _ now) fun _ => .ofExcept r

theorem shows_sendLine (v : Value) : (c.sendLine v).Shows Event.Aside :=
  .bind (.emit trivial) fun _ => .bind (.ofExcept _) fun _ => Socket.shows_act ..

end Connection

namespace Session

variable (c : Connection σ) (s : Service)

theorem shows_readFailed (f : Fault) : (readFailed c s f).Shows Event.Aside := by
  unfold readFailed
  refine .ite ?_ (.ite ?_ (.ite ?_ (.ite ?_ (.fail f))))
  all_goals exact .bind (.emit trivial) fun _ => .pure _

theorem shows_writeFailed (f : Fault) : (writeFailed c s f).Shows Event.Aside := by
  unfold writeFailed
  refine .ite ?_ (.ite ?_ (.fail f))
  all_goals exact .bind (.emit trivial) fun _ => .pure _

theorem shows_respond (v : Value) : (respond c s v).Shows Event.Aside := by
  refine .bind (.emit trivial) fun _ => .bind (c.shows_sendLine v).attempt ?_
  rintro (f | _)
  · exact shows_writeFailed c s f
  · exact .pure _

theorem shows_serve (read : Except Fault (Option (List Char))) :
    (serve c s read).Shows Event.Aside := by
  unfold serve
  split
  · exact shows_readFailed c s _
  · exact .bind (.emit trivial) fun _ => .pure _
  · exact .bind (.emit trivial) fun _ => .pure _
  · refine .bind (.emit trivial) fun _ => .bind (.emit trivial) fun _ => .bind (.emit trivial) fun _ => ?_
    split
    · exact .bind (.emit trivial) fun _ => .pure _
    · exact shows_respond c s _

variable [Peer σ]

theorem aside_run : ∀ e ∈ (run c s).events, e.Aside := by
  obtain ⟨k, hread⟩ := c.events_readLine
  have hreading : ∀ e ∈ c.readLine.events, e.Aside := by
    rw [hread]
    simp [or_imp, forall_and, Event.Aside]
  have hafter : ∀ e ∈ (afterReading c s c.readLine).events, e.Aside := by
    unfold afterReading
    dsimp only
    split
    · exact List.forall_mem_append.2 ⟨hreading, List.forall_mem_singleton.2 trivial⟩
    · next line _ =>
      have hserved := Connection.shows_closing (c.afterReading c.readLine) s.now
        (shows_serve (c.afterReading c.readLine) s line)
      exact List.forall_mem_append.2 ⟨hreading, hserved.each⟩
  exact List.forall_mem_cons.2 ⟨trivial, hafter⟩

omit [Peer σ] in
theorem shows_setupFailed (socket : Socket σ) (address : Address) (channel : String) (f : Fault) :
    (setupFailed socket address channel f).Shows Event.Aside := by
  unfold setupFailed
  split
  · exact .bind (.emit trivial) fun _ =>
      .bind (Connection.shows_tolerate (socket.shows_act ..) fun _ => .emit trivial) fun _ => .pure _
  · exact .fail f

/-- A session does nothing on a listening socket and starts no thread. -/
theorem aside_handle (settings : Settings) (classifier : Classifier) (channel : String) (id : Value)
    (now : Double) (socket : Socket σ) (address : Address) :
    ∀ e ∈ (handle settings classifier channel id now socket address).events, e.Aside := by
  have hstart : ((connectionOf settings socket address channel id now).start
      settings.readTimeout).Shows Event.Aside := socket.shows_act ..
  unfold handle
  dsimp only
  split
  · next f _ =>
    have hfailed := shows_setupFailed socket address channel f
    exact List.forall_mem_append.2 ⟨hstart.each, hfailed.each⟩
  · exact List.forall_mem_append.2 ⟨hstart.each, aside_run _ _⟩

end Session

namespace Client

variable (c : Client)

theorem shows_gather (id : Nat) (s : Script) : (c.gather id s).Shows Event.Aside := by
  fun_induction gather c id s with
  | case1 | case2 | case3 | case4 | case5 => exact ⟨List.forall_mem_singleton.2 trivial⟩
  | case6 s asked chunk t _ _ _ _ _ rest ih => exact ⟨List.forall_mem_cons.2 ⟨trivial, ih.each⟩⟩

theorem shows_reply (n : Network) (heard : Bytes) (r : Remote) :
    (r.reply n heard).1.Shows Event.Aside := by
  cases r with
  | script s => exact .pure s
  | server settings classifier channel =>
    have hserved := Session.aside_handle settings classifier channel (connectionId (n.sessions + 1)) n.now
      { id := n.sockets, peer := { arrivals := (n.requestPieces heard).map .bytes } : Socket Script }
      Remote.clientAddress
    unfold Remote.reply
    dsimp only
    split
    · exact ⟨List.forall_mem_append.2 ⟨hserved, List.forall_mem_singleton.2 trivial⟩⟩
    · exact ⟨hserved⟩
    · exact ⟨hserved⟩

theorem shows_tag (n : Network) (line : List Char) :
    (c.tag n line).1.Shows Event.Aside := by
  have hask (s : Socket Remote) : (c.ask s line).Shows Event.Aside :=
    .bind (.ofExcept _) fun _ => .bind (Socket.shows_act ..) fun _ => .pure _
  have hexchange (s : Socket Remote) (n : Network) :
      (c.exchange s n line).1.Shows Event.Aside := by
    unfold exchange
    dsimp only
    split
    · exact ⟨(hask s).each⟩
    · exact .bind (hask s) fun _ => .bind (shows_reply ..) fun _ => .bind (c.shows_gather ..) fun _ => .ofExcept _
  have hconnect : (c.connect n).1.Shows Event.Aside := by
    unfold connect
    dsimp only
    split <;> exact ⟨List.forall_mem_singleton.2 trivial⟩
  unfold tag
  dsimp only
  split
  · exact ⟨hconnect.each⟩
  · exact .bind hconnect fun _ => .bind (hexchange ..).attempt fun _ =>
      .bind (Socket.shows_act ..) fun _ => .ofExcept _

end Client

/-- A dialogue does nothing on a listening socket and starts no thread. -/
theorem Dialogue.shows_run (c : Client) (n : Network) (input : List Char) :
    (run c n input).Shows Event.Aside := by
  refine .bind (.emit trivial) fun _ => ?_
  generalize requests input = lines
  induction lines generalizing n with
  | nil => exact .pure 0
  | cons line rest ih =>
    have htag := c.shows_tag n line
    unfold tagAll
    dsimp only
    split
    · have hothers := ih (c.tag n line).2
      exact ⟨List.forall_mem_append.2 ⟨htag.each, List.forall_mem_cons.2 ⟨trivial, hothers.each⟩⟩⟩
    · split
      · exact ⟨List.forall_mem_append.2 ⟨htag.each, List.forall_mem_singleton.2 trivial⟩⟩
      · exact ⟨htag.each⟩

/-- Loading a model only writes to the log. -/
theorem Model.shows_load (d : Folder) (path name : String) :
    (load d path name).Shows Event.Logs := by
  have hannounce (g : Gazetteer) (source : String) :
      (announce g source).Shows Event.Logs := .bind (.emit trivial) fun _ => .pure g
  have hbundled (name : String) : (loadBundled name).Shows Event.Logs := by
    unfold loadBundled
    dsimp only
    generalize (if name.endsWith ".json" then name else name ++ ".json") = file
    split
    · exact .fail _
    · split
      · exact hannounce ..
      · exact .fail _
  unfold load
  repeat' split
  · exact .bind (.emit trivial) fun _ => .bind (.ofExcept _) fun _ => .bind (.ofExcept _) fun _ => hannounce ..
  · exact .bind (.emit trivial) fun _ => hbundled name
  · exact .bind (.emit trivial) fun _ => hbundled "default"

namespace Listener

theorem shows_act (n : Nat) {op : ListenerOp} (hop : op.isWait = false) (f : Option Fault) :
    (act n op f).Shows Event.Binds :=
  .bind (.emit hop) fun _ => .guardFault f

/-- To bind, a listener does nothing but what makes it listen and writes to the log. -/
theorem shows_bind (l : Listener) : l.bind.1.Shows Event.Binds := by
  have hprepare (n : Nat) : (l.prepare n).Shows Event.Binds :=
    .bind (shows_act n rfl _) fun _ => .bind (shows_act n rfl _) fun _ =>
      .bind (shows_act n rfl _) fun _ => shows_act n rfl _
  have hgiveUp (n : Nat) (f : Fault) : (l.giveUp n f).Shows Event.Binds := by
    unfold giveUp
    split
    · exact .bind (shows_act n rfl _) fun _ => .bind (.emit trivial) fun _ => .fail _
    · exact .fail f
  have hmake : (l.make l.attempts).Shows Event.Binds := by
    refine .bind (shows_act _ rfl _).attempt ?_
    rintro (f | _)
    · exact .fail _
    · refine .bind (hprepare _).attempt ?_
      rintro (f | _)
      · exact hgiveUp _ f
      · exact .pure ()
  unfold bind
  split
  · exact .pure _
  · dsimp only
    split
    · exact ⟨hmake.each⟩
    · have hfind : (l.findAddress l.attempts).Shows Event.Binds :=
        .bind (.guardFault _) fun _ => .bind (.emit trivial) fun _ => .pure _
      exact ⟨List.forall_mem_append.2 ⟨hmake.each, hfind.each⟩⟩

end Listener

end LineTagger
