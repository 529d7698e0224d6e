import LineTagger.Proofs.Client.Containment

/-!
What a dialogue shows, from beginning to end. Each request has a turn and a connection of its own, and a
dialogue is the turns of its requests, in order, up to the first one that fails.
-/

namespace LineTagger

open Connection

namespace Event

/-- The text of an event on the standard output. -/
def output? : Event → Option (List Char)
  | .output text => some text
  | _ => none

/-- The text of an event on the standard error. -/
def errorOutput? : Event → Option (List Char)
  | .errorOutput text => some text
  | _ => none

end Event

/-- The texts on the standard output among events. -/
def outputs (es : List Event) : List (List Char) := es.filterMap Event.output?

/-- The texts on the standard error among events. -/
def errorOutputs (es : List Event) : List (List Char) := es.filterMap Event.errorOutput?

/-- How one request went: the number of the socket that it was to have, what was done on the socket, and
what came out. -/
structure Turn where
  line : List Char
  id : Nat
  ops : List SocketOp
  result : Except Fault (Option (List Char))

namespace Turn

/-- What a turn that does not fail brings; nothing at all counts as no characters. -/
def answer? (v : Turn) : Option (List Char) :=
  match v.result with
  | .ok answer => some (answer.getD [])
  | .error _ => none

def fault? (v : Turn) : Option Fault :=
  match v.result with
  | .ok _ => none
  | .error f => some f

/-- What is told of a turn: the answer, or a complaint. -/
def told (c : Client) (v : Turn) : Event :=
  match v.result with
  | .ok answer => .output (answer.getD [] ++ ['\n'])
  | .error f => .errorOutput ((Dialogue.complaint c f).toList ++ ['\n'])

/-- What a turn shows. -/
def events (c : Client) (v : Turn) : List Event :=
  .connect c.host c.port c.timeout :: (v.ops.map (.socket v.id) ++ [v.told c])

/-- The turn for a line over what an attempt to connect comes to, if there is one left. On a socket that
was reached the line is sent once, bytes are asked for unless sending failed, and the socket is closed
once; what comes out depends on this socket and this line alone. -/
inductive Over (c : Client) (line : List Char) (id : Nat) : Option Dial → Turn → Prop where
  | refused : Over c line id none ⟨line, id, [], .error Client.refused⟩
  | unreached {f : Fault} (hf : f.isSystem = true) :
      Over c line id (some (.fault f)) ⟨line, id, [], .error f⟩
  | reached {s : Socket Remote} {bs : Bytes} {k : Nat} {r : Except Fault (Option (List Char))}
      (hencode : Charset.encodeBy c.charset (line ++ ['\n']) = .ok bs)
      (hasked : k = 0 ↔ s.sendFault.isSome = true) (hresult : c.Tagged line (.reached s) r)
      (hsystem : ∀ f, r = .error f → f.isSystem = true) :
      Over c line id (some (.reached s))
        ⟨line, id, .send bs :: (List.replicate k (.receive c.bufferSize) ++ [.close]), r⟩

end Turn

/-- The turns for lines over what attempts to connect come to, the sockets numbered from `id` on. There
are none behind one that fails. -/
inductive Turns (c : Client) : Nat → List (List Char) → List Dial → List Turn → Prop where
  | done {id : Nat} {dials : List Dial} : Turns c id [] dials []
  | failed {id : Nat} {line : List Char} {rest : List (List Char)} {dials : List Dial} {v : Turn}
      {f : Fault} (h : v.Over c line id dials.head?) (hresult : v.result = .error f) :
      Turns c id (line :: rest) dials [v]
  | answered {id : Nat} {line : List Char} {rest : List (List Char)} {dials : List Dial} {v : Turn}
      {answer : Option (List Char)} {vs : List Turn} (h : v.Over c line id dials.head?)
      (hresult : v.result = .ok answer) (hrest : Turns c (id + 1) rest dials.tail vs) :
      Turns c id (line :: rest) dials (v :: vs)

theorem Run.events_bind_ofExcept {α β : Type} (r : Run α) (f : α → Except Fault β) :
    (r >>= fun a => ofExcept (f a)).events = r.events := by
  obtain ⟨es, result⟩ := r
  cases result with
  | error => rfl
  | ok => exact List.append_nil es

namespace Client

variable (c : Client)

/-- While a client gathers an answer, nothing but requests for bytes is shown. -/
theorem events_gather (id : Nat) (s : Script) :
    ∃ k, (c.gather id s).events = List.replicate (k + 1) (.socket id (.receive c.bufferSize)) := by
  fun_induction gather c id s with
  | case1 | case2 | case3 | case4 | case5 => exact ⟨0, rfl⟩
  | case6 s _ _ _ _ _ _ _ _ _ ih =>
    obtain ⟨k, hk⟩ := ih
    exact ⟨k + 1, by rw [hk]; rfl⟩

variable {c} {n : Network} {line : List Char} {s : Socket Remote} {dials : List Dial}

/-- On a socket that was reached, closing comes last, whatever was before it. -/
theorem tag_reached (line : List Char) (hdials : n.dials = .reached s :: dials) :
    let exchanged :=
      c.exchange { s with id := n.sockets } { n with dials, sockets := n.sockets + 1 } line
    (c.tag n line).1.events = .connect c.host c.port c.timeout ::
      (exchanged.1.events ++ [.socket n.sockets .close]) ∧ (c.tag n line).2 = exchanged.2 := by
  simp only [tag, connect, hdials, Run.mk_ok_bind, Run.attempt_bind, Socket.close, Socket.act]
  refine ⟨?_, trivial⟩
  cases s.closeFault <;> rfl

/-- To a script a line is sent once, and then the answer is gathered, unless sending fails. -/
theorem exchange_script {script : Script} {bs : Bytes} (hpeer : s.peer = .script script)
    (hencode : Charset.encodeBy c.charset (line ++ ['\n']) = .ok bs) :
    (∃ k, (k = 0 ↔ s.sendFault.isSome = true) ∧ (c.exchange s n line).1.events =
      .socket s.id (.send bs) :: List.replicate k (.socket s.id (.receive c.bufferSize))) ∧
    (c.exchange s n line).2 = n := by
  cases hsend : s.sendFault with
  | some f =>
    have hask : c.ask s line = ⟨[.socket s.id (.send bs)], .error f⟩ := by
      rw [ask, hencode, Run.ofExcept_ok_bind, Socket.send, Socket.act, hsend]
      rfl
    refine ⟨⟨0, by simp, ?_⟩, ?_⟩
    · simp only [exchange, hask]
      rfl
    · simp only [exchange, hask]
  | none =>
    obtain ⟨k, hk⟩ := c.events_gather s.id script
    refine ⟨⟨k + 1, by simp, ?_⟩, ?_⟩
    · simp only [exchange, c.ask_eq hsend hencode, hpeer, Remote.reply, Run.mk_ok_bind]
      rw [← hk]
      exact congrArg _ (Run.events_bind_ofExcept ..)
    · simp only [exchange, c.ask_eq hsend hencode, hpeer, Remote.reply]

/-- The bytes of an answer are a text in the charset of the client. -/
def Readable (c : Client) (d : Dial) : Prop :=
  ∀ {s : Socket Remote} {script : Script} {stream : Bytes} {e : StreamEnd}, d = .reached s →
    s.peer = .script script → Delivers c.bufferSize script stream e →
    lineFeed ∈ stream ∨ e = .closed → ∃ answer, answerOf c.charset stream = .ok answer

theorem readable_of_delivers {script : Script} (hpeer : s.peer = .script script) {stream : Bytes}
    {e : StreamEnd} (hstream : Delivers c.bufferSize script stream e) {answer : Option (List Char)}
    (hanswer : answerOf c.charset stream = .ok answer) : c.Readable (.reached s) := by
  intro s' script' stream' e' hs hpeer' hstream' _
  obtain rfl := Dial.reached.inj hs
  obtain rfl : script = script' := Remote.script.inj (hpeer.symm.trans hpeer')
  obtain ⟨rfl, -⟩ := hstream.unique hstream'
  exact ⟨answer, hanswer⟩

/-- When the line and the answer are texts in the charset, only the operating system fails. -/
theorem isSystem_of_tagged {d : Dial} {bs : Bytes} {f : Fault} (hd : d.Calm c.bufferSize)
    (hencode : Charset.encodeBy c.charset (line ++ ['\n']) = .ok bs) (hread : c.Readable d)
    (h : c.Tagged line d (.error f)) : f.isSystem = true := by
  cases hf : f.isSystem with
  | true => rfl
  | false =>
    cases (escapes_iff hd).2 ⟨h, hf⟩ with
    | request _ hrefused => cases hencode.symm.trans hrefused
    | answer _ _ _ hpeer hstream hend hne hdecode =>
      obtain ⟨answer, hanswer⟩ := hread rfl hpeer hstream hend
      cases hanswer.symm.trans (answerOf_eq_error_iff.2 ⟨hne, hdecode⟩)

/-- Having a line tagged is a turn over the next attempt to connect. -/
theorem exists_over (hbuffer : ¬c.bufferSize.isNull) (hcalm : ∀ d ∈ n.dials, d.Calm c.bufferSize)
    (hread : ∀ d ∈ n.dials, c.Readable d) {bs : Bytes}
    (hencode : Charset.encodeBy c.charset (line ++ ['\n']) = .ok bs) :
    ∃ v : Turn, v.Over c line n.sockets n.dials.head? ∧
      (c.tag n line).1 =
        ⟨.connect c.host c.port c.timeout :: v.ops.map (.socket v.id), v.result⟩ ∧
      (c.tag n line).2.dials = n.dials.tail ∧
      ∀ answer, v.result = .ok answer → (c.tag n line).2.sockets = n.sockets + 1 := by
  cases hdials : n.dials with
  | nil =>
    refine ⟨_, .refused, ?_, ?_, ?_⟩
    · simp [tag, connect, hdials]
    · rw [dials_tag, hdials]
    · intro answer hanswer
      cases hanswer
  | cons d dials =>
    have hd : d.Calm c.bufferSize := hcalm d (hdials ▸ List.mem_cons_self)
    have hreadable : c.Readable d := hread d (hdials ▸ List.mem_cons_self)
    have htail : (c.tag n line).2.dials = (d :: dials).tail := by rw [dials_tag, hdials]
    cases hd with
    | fault hf =>
      refine ⟨_, .unreached hf, ?_, htail, ?_⟩
      · simp [tag, connect, hdials]
      · intro answer hanswer
        cases hanswer
    | @reached s script hpeer hscript hsend hclose =>
      have hd : (Dial.reached s).Calm c.bufferSize := .reached hpeer hscript hsend hclose
      obtain ⟨r, hresult⟩ := exists_tagged hbuffer hd line
      obtain ⟨hevents, hnetwork⟩ := tag_reached (c := c) line hdials
      obtain ⟨⟨k, hk, hshown⟩, hkept⟩ := exchange_script (c := c)
        (n := { n with dials, sockets := n.sockets + 1 }) (s := { s with id := n.sockets })
        hpeer hencode
      refine ⟨_, .reached hencode hk hresult fun f hf =>
        isSystem_of_tagged hd hencode hreadable (hf ▸ hresult), ?_, htail, ?_⟩
      · show (⟨(c.tag n line).1.events, (c.tag n line).1.result⟩ : Run _) = _
        rw [hevents, hshown, hresult.result hbuffer hdials]
        simp
      · intro _ _
        rw [hnetwork, hkept]

end Client

namespace Turn

variable {c : Client} {line : List Char} {id : Nat} {d : Option Dial} {v : Turn}

theorem Over.line_eq (h : v.Over c line id d) : v.line = line := by
  cases h <;> rfl

theorem Over.id_eq (h : v.Over c line id d) : v.id = id := by
  cases h <;> rfl

/-- Only the operating system makes a turn fail. -/
theorem Over.isSystem (h : v.Over c line id d) {f : Fault} (hf : v.result = .error f) :
    f.isSystem = true := by
  cases h with
  | refused =>
    cases hf
    rfl
  | unreached hsystem =>
    cases hf
    exact hsystem
  | reached _ _ _ hsystem => exact hsystem f hf

theorem Over.ops_eq (h : v.Over c line id d) : v.ops = [] ∨
    ∃ bs k, Charset.encodeBy c.charset (v.line ++ ['\n']) = .ok bs ∧
      v.ops = .send bs :: (List.replicate k (.receive c.bufferSize) ++ [.close]) := by
  cases h with
  | refused | unreached => exact .inl rfl
  | reached hencode => exact .inr ⟨_, _, hencode, rfl⟩

theorem fault?_of_ok {answer : Option (List Char)} (h : v.result = .ok answer) : v.fault? = none := by
  rw [fault?, h]

theorem fault?_of_error {f : Fault} (h : v.result = .error f) : v.fault? = some f := by
  rw [fault?, h]

/-- What is shown of a turn but for connecting and the socket is what is told of it. -/
theorem filterMap_events {α : Type} {f : Event → Option α}
    (hconnect : f (.connect c.host c.port c.timeout) = none)
    (hsocket : ∀ id op, f (.socket id op) = none) (v : Turn) :
    (v.events c).filterMap f = (f (v.told c)).toList := by
  have hops : (v.ops.map (Event.socket v.id)).filterMap f = [] := by
    rw [List.filterMap_map, List.filterMap_eq_nil_iff]
    exact fun op _ => hsocket v.id op
  rw [events, List.filterMap_cons_none hconnect, List.filterMap_append, hops]
  cases htold : f (v.told c) <;> simp [htold]

theorem output?_told (c : Client) (v : Turn) :
    (v.told c).output? = v.answer?.map (· ++ ['\n']) := by
  rw [told, answer?]
  cases v.result <;> rfl

theorem errorOutput?_told (c : Client) (v : Turn) : (v.told c).errorOutput? =
    v.fault?.map fun f => (Dialogue.complaint c f).toList ++ ['\n'] := by
  rw [told, fault?]
  cases v.result <;> rfl

theorem sockets_events (c : Client) (v : Turn) :
    sockets (v.events c) = v.ops.map (Prod.mk v.id) := by
  have htold : [v.told c].filterMap Event.socketOp? = [] := by
    rw [told]
    cases v.result <;> rfl
  have hops : (v.ops.map (Event.socket v.id)).filterMap Event.socketOp? = v.ops.map (Prod.mk v.id) := by
    rw [List.filterMap_map]
    exact congrFun List.filterMap_eq_map' v.ops
  rw [sockets, events, List.filterMap_cons_none rfl, List.filterMap_append, hops, htold,
    List.append_nil]

theorem opsOn_events (c : Client) (v : Turn) (id : Nat) :
    opsOn id (v.events c) = if v.id = id then v.ops else [] := opsOn_of_sockets (v.sockets_events c) id

end Turn

namespace Dialogue

variable {c : Client} {n : Network}

theorem tagAll_cons (c : Client) (n : Network) (line : List Char) (rest : List (List Char)) :
    tagAll c n (line :: rest) = match (c.tag n line).1.result with
      | .ok answer =>
        ⟨(c.tag n line).1.events ++ .output (answer.getD [] ++ ['\n']) ::
          (tagAll c (c.tag n line).2 rest).events, (tagAll c (c.tag n line).2 rest).result⟩
      | .error f =>
        if f.isSystem then
          ⟨(c.tag n line).1.events ++ [.errorOutput ((complaint c f).toList ++ ['\n'])], .ok 1⟩
        else ⟨(c.tag n line).1.events, .error f⟩ := rfl

/-- Having lines tagged is the turns for them; the exit status tells how many failed. -/
theorem exists_turns (hbuffer : ¬c.bufferSize.isNull) {lines : List (List Char)}
    (hcalm : ∀ d ∈ n.dials, d.Calm c.bufferSize) (hread : ∀ d ∈ n.dials, c.Readable d)
    (hencode : ∀ line ∈ lines, ∃ bs, Charset.encodeBy c.charset (line ++ ['\n']) = .ok bs) :
    ∃ vs, Turns c n.sockets lines n.dials vs ∧
      tagAll c n lines = ⟨vs.flatMap (Turn.events c), .ok (vs.filterMap Turn.fault?).length⟩ := by
  -- by induction on the lines, over the network that the first turn leaves
  induction lines generalizing n with
  | nil => exact ⟨[], .done, rfl⟩
  | cons line rest ih =>
    obtain ⟨⟨bs, hline⟩, hrest⟩ := List.forall_mem_cons.1 hencode
    obtain ⟨v, hover, htag, hdials, hsockets⟩ := Client.exists_over hbuffer hcalm hread hline
    have htail : ∀ d ∈ (c.tag n line).2.dials, d ∈ n.dials := by
      intro d hd
      rw [hdials] at hd
      exact List.mem_of_mem_tail hd
    cases hresult : v.result with
    | error f =>
      refine ⟨[v], .failed hover hresult, ?_⟩
      rw [tagAll_cons, htag, hresult]
      dsimp only
      rw [if_pos (hover.isSystem hresult)]
      simp [Turn.events, Turn.told, Turn.fault?, hresult]
    | ok answer =>
      obtain ⟨vs, hturns, htagAll⟩ := ih (fun d hd => hcalm d (htail d hd))
        (fun d hd => hread d (htail d hd)) hrest
      rw [hsockets answer hresult, hdials] at hturns
      refine ⟨v :: vs, .answered hover hresult hturns, ?_⟩
      rw [tagAll_cons, htag, hresult, htagAll]
      simp [Turn.events, Turn.told, Turn.fault?, hresult]

end Dialogue

namespace Turns

variable {c : Client} {id : Nat} {lines : List (List Char)} {dials : List Dial} {vs : List Turn}

/-- The lines are taken up in order. -/
theorem lines_prefix (h : Turns c id lines dials vs) : vs.map Turn.line <+: lines := by
  induction h with
  | done => exact List.nil_prefix
  | failed h _ =>
    rw [List.map_cons, h.line_eq, List.cons_prefix_cons]
    exact ⟨rfl, List.nil_prefix⟩
  | answered h _ _ ih =>
    rw [List.map_cons, h.line_eq, List.cons_prefix_cons]
    exact ⟨rfl, ih⟩

/-- All lines are taken up and no turn fails, or the last turn is the only one that fails. -/
theorem ending (h : Turns c id lines dials vs) :
    ((∀ v ∈ vs, v.fault? = none) ∧ vs.map Turn.line = lines) ∨
    ∃ before v f, vs = before ++ [v] ∧ (∀ w ∈ before, w.fault? = none) ∧ v.fault? = some f ∧
      f.isSystem = true := by
  induction h with
  | done => exact .inl ⟨by simp, rfl⟩
  | failed h hresult =>
    exact .inr ⟨[], _, _, rfl, by simp, Turn.fault?_of_error hresult, h.isSystem hresult⟩
  | answered h hresult _ ih =>
    have hfault := Turn.fault?_of_ok hresult
    obtain ⟨hall, hlines⟩ | ⟨before, v, f, rfl, hbefore, hv, hf⟩ := ih
    · refine .inl ⟨List.forall_mem_cons.2 ⟨hfault, hall⟩, ?_⟩
      rw [List.map_cons, h.line_eq, hlines]
    · exact .inr ⟨_ :: before, v, f, rfl, List.forall_mem_cons.2 ⟨hfault, hbefore⟩, hv, hf⟩

theorem id_le (h : Turns c id lines dials vs) : ∀ v ∈ vs, id ≤ v.id := by
  induction h with
  | done => simp
  | failed h => simp [h.id_eq]
  | answered h _ _ ih =>
    rw [List.forall_mem_cons]
    refine ⟨Nat.le_of_eq h.id_eq.symm, ?_⟩
    intro v hv
    have hle := ih v hv
    omega

theorem opsOn_before (h : Turns c id lines dials vs) {k : Nat} (hk : k < id) :
    opsOn k (vs.flatMap (Turn.events c)) = [] := by
  have hquiet : ∀ v ∈ vs, opsOn k (v.events c) = [] := by
    intro v hv
    have hle := h.id_le v hv
    rw [Turn.opsOn_events, if_neg (by omega)]
  clear h
  induction vs with
  | nil => rfl
  | cons v vs ih =>
    obtain ⟨hv, hrest⟩ := List.forall_mem_cons.1 hquiet
    rw [List.flatMap_cons, opsOn_append, hv, ih hrest]
    rfl

/-- Of all that is shown, what is done on the socket of a turn was done in that turn. -/
theorem opsOn_eq (h : Turns c id lines dials vs) :
    ∀ v ∈ vs, opsOn v.id (vs.flatMap (Turn.events c)) = v.ops := by
  induction h with
  | done => simp
  | failed =>
    intro v hv
    obtain rfl := List.mem_singleton.1 hv
    rw [List.flatMap_cons, List.flatMap_nil, List.append_nil, Turn.opsOn_events, if_pos rfl]
  | @answered id line rest dials w answer vs h hresult hrest ih =>
    -- the sockets of the turns that follow have higher numbers
    have hid : w.id = id := h.id_eq
    rw [List.forall_mem_cons]
    constructor
    · rw [List.flatMap_cons, opsOn_append, Turn.opsOn_events, if_pos rfl,
        hrest.opsOn_before (by omega), List.append_nil]
    · intro v hv
      have hle := hrest.id_le v hv
      rw [List.flatMap_cons, opsOn_append, Turn.opsOn_events, if_neg (by omega), ih v hv]
      rfl

theorem ops_eq (h : Turns c id lines dials vs) : ∀ v ∈ vs, v.ops = [] ∨
    ∃ bs k, Charset.encodeBy c.charset (v.line ++ ['\n']) = .ok bs ∧
      v.ops = .send bs :: (List.replicate k (.receive c.bufferSize) ++ [.close]) := by
  induction h with
  | done => simp
  | failed h =>
    intro v hv
    obtain rfl := List.mem_singleton.1 hv
    exact h.ops_eq
  | answered h _ _ ih => exact List.forall_mem_cons.2 ⟨h.ops_eq, ih⟩

theorem filterMap_eq {α : Type} {f : Event → Option α}
    (hconnect : f (.connect c.host c.port c.timeout) = none)
    (hsocket : ∀ id op, f (.socket id op) = none) (vs : List Turn) :
    (vs.flatMap (Turn.events c)).filterMap f = vs.filterMap fun v => f (v.told c) := by
  induction vs with
  | nil => rfl
  | cons v vs ih =>
    rw [List.flatMap_cons, List.filterMap_append, ih, Turn.filterMap_events hconnect hsocket,
      List.filterMap_cons]
    cases f (v.told c) <;> rfl

theorem outputs_eq (c : Client) (vs : List Turn) : outputs (vs.flatMap (Turn.events c)) =
    (vs.filterMap Turn.answer?).map (· ++ ['\n']) := by
  rw [outputs, filterMap_eq rfl (fun _ _ => rfl), List.map_filterMap]
  simp only [Turn.output?_told]

theorem errorOutputs_eq (c : Client) (vs : List Turn) :
    errorOutputs (vs.flatMap (Turn.events c)) = (vs.filterMap Turn.fault?).map fun f =>
      (Dialogue.complaint c f).toList ++ ['\n'] := by
  rw [errorOutputs, filterMap_eq rfl (fun _ _ => rfl), List.map_filterMap]
  simp only [Turn.errorOutput?_told]

end Turns

namespace Dialogue

/-- A dialogue as turns: what it shows, on its sockets and to the user, and how it ends. -/
structure Conversation (c : Client) (n : Network) (input : List Char) (vs : List Turn) : Prop where
  turns : Turns c n.sockets (requests input) n.dials vs
  events : (run c n input).events =
    .output (prompt.toList ++ ['\n']) :: vs.flatMap (Turn.events c)
  lines : vs.map Turn.line <+: requests input
  output : outputs (run c n input).events =
    (prompt.toList ++ ['\n']) :: (vs.filterMap Turn.answer?).map (· ++ ['\n'])
  /-- nothing was done for a turn, or the line was sent once and the socket was closed once -/
  operations : ∀ v ∈ vs, opsOn v.id (run c n input).events = [] ∨
    ∃ bs k, Charset.encodeBy c.charset (v.line ++ ['\n']) = .ok bs ∧
      opsOn v.id (run c n input).events =
        .send bs :: (List.replicate k (.receive c.bufferSize) ++ [.close])
  /-- all requests were answered, or the last turn is the only one that failed -/
  ending :
    ((run c n input).result = .ok 0 ∧ errorOutputs (run c n input).events = [] ∧
      vs.map Turn.line = requests input ∧ ∀ v ∈ vs, v.fault? = none) ∨
    ∃ before v f, vs = before ++ [v] ∧ (∀ w ∈ before, w.fault? = none) ∧ v.fault? = some f ∧
      f.isSystem = true ∧ (run c n input).result = .ok 1 ∧
      errorOutputs (run c n input).events = [(complaint c f).toList ++ ['\n']]

end Dialogue

end LineTagger
