import LineTagger.Proofs.Gathering
import LineTagger.Proofs.Session.Closing
import LineTagger.Proofs.Trace

/-!
The discipline of a session. It sets up its socket, asks for bytes, has a line classified at most
once, sends at most once, and gives the socket back in the same way whatever happened before; its
stages never go back.
-/

namespace LineTagger

open Connection

/-- Each stage comes after the one before it in the life of a connection. -/
def Stage.Forward (ss : List Stage) : Prop := ss.Pairwise fun s t => s.rank < t.rank

variable {σ : Type}

namespace Connection

variable (c : Connection σ) (age : Double)

theorem acts_closeEvents : acts (c.closeEvents age) =
    [.socket c.socket.id .shutdown, .socket c.socket.id .close] := by
  unfold closeEvents
  cases c.socket.shutdownFault <;> cases c.socket.closeFault <;> rfl

theorem stages_closeEvents : stages (c.closeEvents age) = [.closing, .closed] := by
  unfold closeEvents
  cases c.socket.shutdownFault <;> cases c.socket.closeFault <;> rfl

end Connection

namespace Session

def callFor (s : Service) (line : List Char) : Event :=
  .classify s.classifier.kind line s.outputFormat s.preserveSpacing

/-- The calls of the classifier and the sends that what was read leads to. The classifier is called for
a line that is not empty, and the bytes of its answer are sent where it returned one that can be
encoded. -/
inductive Served (c : Connection σ) (s : Service) :
    Except Fault (Option (List Char)) → List Event → List Event → Prop where
  | uncalled {read : Except Fault (Option (List Char))}
      (h : ∀ line, read = .ok (some line) → line = []) : Served c s read [] []
  | raised {line : List Char} {f : Fault} (hline : line ≠ [])
      (h : s.classifier.annotate line s.outputFormat s.preserveSpacing = .error f) :
      Served c s (.ok (some line)) [callFor s line] []
  | unencoded {line : List Char} {v : Value} {f : Fault} (hline : line ≠ [])
      (h : s.classifier.annotate line s.outputFormat s.preserveSpacing = .ok v)
      (hbytes : encodeLine c.charset v = .error f) :
      Served c s (.ok (some line)) [callFor s line] []
  | sent {line : List Char} {v : Value} {bs : Bytes} (hline : line ≠ [])
      (h : s.classifier.annotate line s.outputFormat s.preserveSpacing = .ok v)
      (hbytes : encodeLine c.charset v = .ok bs) :
      Served c s (.ok (some line)) [callFor s line] [.socket c.socket.id (.send bs)]

variable {c : Connection σ} {s : Service} {read : Except Fault (Option (List Char))}
  {r : Run Outcome}

theorem Served.called_iff {calls sends : List Event} (h : Served c s read calls sends) :
    calls ≠ [] ↔ ∃ line, line ≠ [] ∧ read = .ok (some line) := by
  cases h with
  | uncalled h =>
    refine ⟨fun hcalls => absurd rfl hcalls, ?_⟩
    rintro ⟨line, hline, hread⟩
    exact absurd (h line hread) hline
  | raised hline | unencoded hline | sent hline =>
    exact ⟨fun _ => ⟨_, hline, rfl⟩, fun _ => List.cons_ne_nil _ _⟩

/-- A course calls the classifier and sends the answer, each at most once. -/
theorem Course.acts_eq (h : Course c s read r) :
    ∃ calls sends, acts r.events = calls ++ sends ∧ Served c s read calls sends ∧
      (r.result = .ok .responded ↔ sends ≠ [] ∧ c.socket.sendFault = none) := by
  cases h with
  | unread | unreadable => exact ⟨[], [], rfl, .uncalled (by simp), by simp⟩
  | @noInput read m h =>
    refine ⟨[], [], rfl, .uncalled ?_, by simp⟩
    intro line hread
    rwa [Except.ok.inj hread, Option.getD_some] at h
  | unclassified hline h => exact ⟨_, [], rfl, .raised hline h, by simp⟩
  | unencoded hline h hbytes | unencodable hline h hbytes =>
    exact ⟨_, [], rfl, .unencoded hline h hbytes, by simp⟩
  | unsent hline h hbytes hsend | unsendable hline h hbytes hsend =>
    exact ⟨[_], [_], rfl, .sent hline h hbytes, by simp [hsend]⟩
  | responded hline h hbytes hsend =>
    exact ⟨[_], [_], rfl, .sent hline h hbytes, by simp [hsend]⟩

theorem Course.stages_sublist (h : Course c s read r) :
    (stages r.events).Sublist [.classifying, .writing] := by
  cases h with
  | unread | unreadable | noInput => exact List.nil_sublist _
  | unclassified => exact .cons_cons _ (List.nil_sublist _)
  | unencoded | unencodable | unsent | unsendable | responded => exact List.Sublist.refl _

/-- What a session does that could set up its socket. It asks for bytes, calls the classifier, sends
the answer and gives the socket back; its stages go forward and end with the last one. -/
structure Disciplined [Peer σ] (c : Connection σ) (s : Service) (readTimeout : Value)
    (es : List Event) (result : Except Fault Outcome) : Prop where
  acts : ∃ read k calls sends,
    c.readLine.stop = .done read ∧
    acts es = .socket c.socket.id (.setTimeout readTimeout) ::
      (List.replicate (k + 1) (.socket c.socket.id (.receive c.bufferSize)) ++ calls ++ sends ++
        [.socket c.socket.id .shutdown, .socket c.socket.id .close]) ∧
    Served c s read calls sends ∧
    (calls ≠ [] ↔ ∃ line, line ≠ [] ∧ read = .ok (some line)) ∧
    (result = .ok .responded ↔ sends ≠ [] ∧ c.socket.sendFault = none)
  forward : Stage.Forward (.new :: stages es)
  closed : (stages es).getLast? = some .closed

theorem Served.of_afterReading [Peer σ] {calls sends : List Event}
    (h : Served (c.afterReading c.readLine) s read calls sends) : Served c s read calls sends := by
  cases h with
  | uncalled h => exact .uncalled h
  | raised hline h => exact .raised hline h
  | unencoded hline h hbytes => exact .unencoded hline h hbytes
  | sent hline h hbytes => exact .sent hline h hbytes

/-- The operations and calls of a session: those of its course stand between the requests for bytes and
the giving back of the socket. -/
theorem acts_served [Peer σ] (c : Connection σ) (s : Service) (es : List Event) (readTimeout : Value)
    (age : Double) :
    ∃ k, acts (.socket c.socket.id (.setTimeout readTimeout) :: createdEvent c s ::
      (c.readLine.events ++ es ++ c.closeEvents age)) =
      .socket c.socket.id (.setTimeout readTimeout) ::
        (List.replicate (k + 1) (.socket c.socket.id (.receive c.bufferSize)) ++
          acts es ++ [.socket c.socket.id .shutdown, .socket c.socket.id .close]) := by
  obtain ⟨k, hevents⟩ := c.events_readLine
  have hact : Event.isAct (.socket c.socket.id (.receive c.bufferSize)) = true := rfl
  have hreading : acts c.readLine.events =
      List.replicate (k + 1) (.socket c.socket.id (.receive c.bufferSize)) := by
    rw [hevents]
    exact acts_replicate hact (k + 1)
  refine ⟨k, ?_⟩
  show _ :: acts (c.readLine.events ++ es ++ c.closeEvents age) = _
  rw [acts_append, acts_append, hreading, acts_closeEvents]

theorem stages_served [Peer σ] (c : Connection σ) (s : Service) (es : List Event) (readTimeout : Value)
    (age : Double) :
    stages (.socket c.socket.id (.setTimeout readTimeout) :: createdEvent c s ::
      (c.readLine.events ++ es ++ c.closeEvents age)) =
      .reading :: (stages es ++ [.closing, .closed]) := by
  obtain ⟨k, hevents⟩ := c.events_readLine
  have hstage : Event.stage? (.socket c.socket.id (.receive c.bufferSize)) = none := rfl
  have hreading : stages c.readLine.events = [.reading] := by
    rw [hevents]
    exact congrArg (Stage.reading :: ·) (stages_replicate hstage (k + 1))
  show stages (c.readLine.events ++ es ++ c.closeEvents age) = _
  rw [stages_append, stages_append, hreading, stages_closeEvents]
  rfl

/-- What a session shows is disciplined when it takes a course between reading and closing. -/
theorem Course.disciplined [Peer σ] (h : Course (c.afterReading c.readLine) s read r)
    (hread : c.readLine.stop = .done read) (readTimeout : Value) (age : Double) :
    Disciplined c s readTimeout
      (.socket c.socket.id (.setTimeout readTimeout) :: createdEvent c s ::
        (c.readLine.events ++ r.events ++ c.closeEvents age)) r.result := by
  obtain ⟨k, hacts⟩ := acts_served c s r.events readTimeout age
  have hstages := stages_served c s r.events readTimeout age
  obtain ⟨calls, sends, hcourse, hserved, hresult⟩ := h.acts_eq
  rw [hcourse] at hacts
  refine ⟨⟨read, k, calls, sends, hread, ?_, hserved.of_afterReading, hserved.called_iff, hresult⟩,
    ?_, ?_⟩
  · rw [hacts, List.append_assoc _ calls]
  · have hlife : Stage.Forward [.new, .reading, .classifying, .writing, .closing, .closed] := by
      unfold Stage.Forward
      decide
    rw [hstages]
    exact hlife.sublist (((h.stages_sublist.append_right _).cons_cons _).cons_cons _)
  · rw [hstages, ← List.cons_append, List.getLast?_append]
    rfl

section

variable [Peer σ] (settings : Settings) (classifier : Classifier) (channel : String) (id : Value)
  (now : Double) (socket : Socket σ) (address : Address)

/-- A session over a peer that answers its requests, with bytes or any fault, ends with an outcome or
a fault. When its socket cannot be set up, it closes the socket and does nothing else with it; else it
is disciplined, also when a fault escapes. -/
theorem handle_disciplined
    (hpeer : Peer.Always Peer.Answered socket.peer settings.bufferSize)
    (htimeout : ∀ f ∈ socket.timeoutFault, f.isSystem = true)
    (hshutdown : ∀ f ∈ socket.shutdownFault, f.isSystem = true)
    (hclose : ∀ f ∈ socket.closeFault, f.isSystem = true) :
    ∃ result,
      (handle settings classifier channel id now socket address).stop = .ended result ∧
      (socket.timeoutFault ≠ none →
        acts (handle settings classifier channel id now socket address).events =
          [.socket socket.id (.setTimeout settings.readTimeout), .socket socket.id .close] ∧
        result = .ok .readError) ∧
      (socket.timeoutFault = none →
        Disciplined (connectionOf settings socket address channel id now)
          (serviceOf settings classifier channel now) settings.readTimeout
          (handle settings classifier channel id now socket address).events result) := by
  cases hfault : socket.timeoutFault with
  | some f =>
    have hf : f.isSystem = true := htimeout f hfault
    rw [handle_of_timeoutFault hfault hf hclose]
    refine ⟨_, rfl, fun _ => ⟨?_, rfl⟩, fun h => absurd h (Option.some_ne_none f)⟩
    cases socket.closeFault <;> rfl
  | none =>
    obtain ⟨read, hread⟩ := readLine_done
      (c := connectionOf settings socket address channel id now) hpeer
    obtain ⟨r, hcourse, hhandle⟩ := handle_course hfault rfl rfl hread hshutdown hclose
    rw [hhandle]
    exact ⟨_, rfl, fun h => absurd rfl h, fun _ => hcourse.disciplined hread _ _⟩

end

/-- Sending the answer fails for a reason that no session expects, and shutting down fails as well. -/
theorem handle_disciplined_unsendable :
    let classifier : Classifier := ⟨"echo", fun line _ _ => .ok (.text (String.ofList line))⟩
    let socket : Socket Script :=
      { id := 0, peer := { arrivals := [.bytes [104, 105, 10]] }, sendFault := some (.runtime [])
        shutdownFault := some (.system .other []) }
    ∃ result,
      (handle {} classifier "" .null default socket default).stop = .ended result ∧
      Disciplined (connectionOf {} socket default "" .null default)
        (serviceOf {} classifier "" default) .null
        (handle {} classifier "" .null default socket default).events result := by
  intro classifier socket
  have hpeer : Peer.Always Peer.Answered socket.peer (.int 4096) :=
    Script.always (by simp [Peer.Answered]) (by simp [socket]) (by simp [socket])
      (by simp [socket]) 4096
  obtain ⟨result, hstop, -, hserved⟩ := handle_disciplined {} classifier "" .null default socket
    default hpeer (by simp [socket]) (by simp [socket, Fault.isSystem]) (by simp [socket])
  exact ⟨result, hstop, hserved rfl⟩

end Session

end LineTagger
