import LineTagger.Dialogue
import LineTagger.Proofs.RoundTrip
import LineTagger.Proofs.Session.Containment

/-!
What a dialogue lets escape. Over connections that fail in the ways of the operating system only, it
ends with an exit status unless a request has no bytes in the charset of the client or the bytes of an
answer are no text in it.
-/

namespace LineTagger

open Connection

theorem Run.result_bind_ofExcept {α β : Type} (r : Run α) (f : α → Except Fault β) :
    (r >>= fun a => ofExcept (f a)).result = r.result >>= f := by
  obtain ⟨es, result⟩ := r
  cases result <;> rfl

/-- A peer that brings bytes or failures of the operating system brings a stream. -/
theorem Script.exists_delivers {n : Value} (hn : ¬n.isNull) {s : Script}
    (hpeer : Peer.Always Peer.Calm s n) : ∃ stream e, Delivers n s stream e := by
  -- each piece that is read makes the script weigh less
  induction hw : s.weight using Nat.strongRecOn generalizing s with
  | _ w ih =>
    have hhead : Peer.Calm (s.receive n).1 := hpeer.head
    have htail : Peer.Always Peer.Calm (s.receive n).2 n := hpeer.tail
    cases hreceive : s.receive n with
    | mk d t =>
      rw [hreceive] at hhead htail
      cases d with
      | waits gate => exact hhead.elim
      | fault f => exact ⟨[], .fault f, .fault hreceive⟩
      | bytes chunk =>
        by_cases hchunk : chunk = []
        · subst hchunk
          exact ⟨[], .closed, .closed hreceive⟩
        · have hless : t.weight < w := hw ▸ Script.weight_receive hreceive hn hchunk
          obtain ⟨stream, e, hrest⟩ := ih _ hless htail rfl
          exact ⟨chunk ++ stream, e, .piece hreceive hchunk hrest⟩

theorem Delivers.isSystem {σ : Type} [Peer σ] {n : Value} {s : σ} {stream : Bytes} {f : Fault}
    (h : Delivers n s stream (.fault f)) (hpeer : Peer.Always Peer.Calm s n) : f.isSystem = true := by
  generalize he : StreamEnd.fault f = e at h
  induction h with
  | closed => cases he
  | fault h =>
    cases he
    have hhead := hpeer.head
    rwa [h] at hhead
  | piece h _ _ ih =>
    have htail := hpeer.tail
    rw [h] at htail
    exact ih htail he

/-- What an attempt to connect comes to when only the operating system fails: a failure of it, or a
socket on which nothing else fails and at whose other end a script brings bytes. -/
inductive Dial.Calm (n : Value) : Dial → Prop where
  | fault {f : Fault} (h : f.isSystem = true) : Calm n (.fault f)
  | reached {s : Socket Remote} {script : Script} (hpeer : s.peer = .script script)
      (hcalm : Peer.Always Peer.Calm script n) (hsend : ∀ f ∈ s.sendFault, f.isSystem = true)
      (hclose : ∀ f ∈ s.closeFault, f.isSystem = true) : Calm n (.reached s)

namespace Client

variable (c : Client)

/-- What comes of having a line tagged over what an attempt to connect comes to. -/
inductive Tagged (line : List Char) : Dial → Except Fault (Option (List Char)) → Prop where
  | unreached (f : Fault) : Tagged line (.fault f) (.error f)
  | unclosed {s : Socket Remote} {f : Fault} (hclose : s.closeFault = some f) :
      Tagged line (.reached s) (.error f)
  | unencodable {s : Socket Remote} {f : Fault} (hclose : s.closeFault = none)
      (hencode : Charset.encodeBy c.charset (line ++ ['\n']) = .error f) :
      Tagged line (.reached s) (.error f)
  | unsent {s : Socket Remote} {heard : Bytes} {f : Fault} (hclose : s.closeFault = none)
      (hencode : Charset.encodeBy c.charset (line ++ ['\n']) = .ok heard)
      (hsend : s.sendFault = some f) : Tagged line (.reached s) (.error f)
  | broken {s : Socket Remote} {heard stream : Bytes} {script : Script} {f : Fault}
      (hclose : s.closeFault = none)
      (hencode : Charset.encodeBy c.charset (line ++ ['\n']) = .ok heard)
      (hsend : s.sendFault = none) (hpeer : s.peer = .script script)
      (hstream : Delivers c.bufferSize script stream (.fault f)) (hfeed : lineFeed ∉ stream) :
      Tagged line (.reached s) (.error f)
  | answered {s : Socket Remote} {heard stream : Bytes} {script : Script} {e : StreamEnd}
      (hclose : s.closeFault = none)
      (hencode : Charset.encodeBy c.charset (line ++ ['\n']) = .ok heard)
      (hsend : s.sendFault = none) (hpeer : s.peer = .script script)
      (hstream : Delivers c.bufferSize script stream e) (hend : lineFeed ∈ stream ∨ e = .closed) :
      Tagged line (.reached s) (answerOf c.charset stream)

theorem dials_reply (n : Network) (heard : Bytes) (r : Remote) :
    (r.reply n heard).2.dials = n.dials := by
  cases r with
  | script => rfl
  | server =>
    simp only [Remote.reply]
    split <;> rfl

theorem dials_tag (n : Network) (line : List Char) : (c.tag n line).2.dials = n.dials.tail := by
  cases hdials : n.dials with
  | nil => simp [tag, connect, hdials]
  | cons d dials =>
    cases d with
    | fault f => simp [tag, connect, hdials]
    | reached s =>
      simp only [tag, connect, hdials, exchange]
      split
      · rfl
      · exact dials_reply ..

variable {c} {n : Network} {line : List Char} {d : Dial} {dials : List Dial} {f : Fault}

theorem result_tag_nil (h : n.dials = []) : (c.tag n line).1.result = .error refused := by
  simp [tag, connect, h]

/-- Closing comes last, and its failure takes the place of every other. -/
theorem result_tag_unclosed {s : Socket Remote} (hdials : n.dials = .reached s :: dials)
    (hclose : s.closeFault = some f) : (c.tag n line).1.result = .error f := by
  simp only [tag, connect, hdials, Run.mk_ok_bind, Run.attempt_bind, Socket.close, Socket.act, hclose]
  rfl

theorem result_tag_unasked {s : Socket Remote} (hdials : n.dials = .reached s :: dials)
    (hclose : s.closeFault = none) (h : (c.ask { s with id := n.sockets } line).result = .error f) :
    (c.tag n line).1.result = .error f := by
  have hexchange : (c.exchange { s with id := n.sockets }
      { n with dials, sockets := n.sockets + 1 } line).1.result = .error f := by
    simp only [exchange, h]
  rw [c.tag_eq hdials hclose rfl, hexchange]

/-- When the request was sent, the answer is in what the client gathers. -/
theorem result_exchange {s : Socket Remote} {script : Script} {heard : Bytes}
    (hencode : Charset.encodeBy c.charset (line ++ ['\n']) = .ok heard)
    (hsend : s.sendFault = none) (hpeer : s.peer = .script script) :
    (c.exchange s n line).1.result = (c.gather s.id script).result >>= answerOf c.charset := by
  simp only [exchange, c.ask_eq hsend hencode, hpeer, Remote.reply, Run.mk_ok_bind]
  exact Run.result_bind_ofExcept ..

theorem result_tag_asked {s : Socket Remote} {script : Script} {heard : Bytes}
    (hdials : n.dials = .reached s :: dials) (hclose : s.closeFault = none)
    (hencode : Charset.encodeBy c.charset (line ++ ['\n']) = .ok heard)
    (hsend : s.sendFault = none) (hpeer : s.peer = .script script) :
    (c.tag n line).1.result = (c.gather n.sockets script).result >>= answerOf c.charset := by
  rw [c.tag_eq hdials hclose rfl]
  exact result_exchange (s := { s with id := n.sockets }) hencode hsend hpeer

theorem ask_unencodable {s : Socket Remote}
    (h : Charset.encodeBy c.charset (line ++ ['\n']) = .error f) : (c.ask s line).result = .error f := by
  rw [ask, h]
  rfl

theorem ask_unsent {s : Socket Remote} {heard : Bytes}
    (h : Charset.encodeBy c.charset (line ++ ['\n']) = .ok heard) (hsend : s.sendFault = some f) :
    (c.ask s line).result = .error f := by
  rw [ask, h, Run.ofExcept_ok_bind, Socket.send, Socket.act, hsend]
  rfl

theorem Tagged.result {r : Except Fault (Option (List Char))} (hbuffer : ¬c.bufferSize.isNull)
    (h : c.Tagged line d r) (hdials : n.dials = d :: dials) : (c.tag n line).1.result = r := by
  cases h with
  | unreached f => simp [tag, connect, hdials]
  | unclosed hclose => exact result_tag_unclosed hdials hclose
  | unencodable hclose hencode =>
    exact result_tag_unasked hdials hclose (ask_unencodable hencode)
  | unsent hclose hencode hsend =>
    exact result_tag_unasked hdials hclose (ask_unsent hencode hsend)
  | broken hclose hencode hsend hpeer hstream hfeed =>
    rw [result_tag_asked hdials hclose hencode hsend hpeer, c.gather_of_notMem _ hbuffer hstream hfeed]
    rfl
  | @answered s heard stream script e hclose hencode hsend hpeer hstream hend =>
    rw [result_tag_asked hdials hclose hencode hsend hpeer]
    by_cases hfeed : lineFeed ∈ stream
    · obtain ⟨k, bs, rest, hgather, rfl, hbs⟩ := c.gather_of_mem n.sockets hbuffer hstream hfeed
      rw [hgather]
      exact answerOf_append hbs rest
    · obtain rfl := hend.resolve_left hfeed
      rw [c.gather_of_notMem _ hbuffer hstream hfeed]
      rfl

/-- Over what fails in the ways of the operating system only, having a line tagged comes to something. -/
theorem exists_tagged (hbuffer : ¬c.bufferSize.isNull) (hd : d.Calm c.bufferSize)
    (line : List Char) : ∃ r, c.Tagged line d r := by
  cases hd with
  | fault => exact ⟨_, .unreached _⟩
  | @reached s script hpeer hcalm _ _ =>
    cases hclose : s.closeFault with
    | some f => exact ⟨_, .unclosed hclose⟩
    | none =>
    cases hencode : Charset.encodeBy c.charset (line ++ ['\n']) with
    | error f => exact ⟨_, .unencodable hclose hencode⟩
    | ok heard =>
    cases hsend : s.sendFault with
    | some f => exact ⟨_, .unsent hclose hencode hsend⟩
    | none =>
    obtain ⟨stream, e, hstream⟩ := Script.exists_delivers hbuffer hcalm
    by_cases hfeed : lineFeed ∈ stream
    · exact ⟨_, .answered hclose hencode hsend hpeer hstream (.inl hfeed)⟩
    · cases e with
      | closed => exact ⟨_, .answered hclose hencode hsend hpeer hstream (.inr rfl)⟩
      | fault f => exact ⟨_, .broken hclose hencode hsend hpeer hstream hfeed⟩

theorem result_tag_iff (hbuffer : ¬c.bufferSize.isNull) (hd : d.Calm c.bufferSize)
    (hdials : n.dials = d :: dials) {r : Except Fault (Option (List Char))} :
    (c.tag n line).1.result = r ↔ c.Tagged line d r := by
  constructor
  · rintro rfl
    obtain ⟨r, hr⟩ := exists_tagged hbuffer hd line
    rwa [hr.result hbuffer hdials]
  · exact fun h => h.result hbuffer hdials

/-- What lets a fault escape: a request that has no bytes in the charset of the client, or an answer
whose bytes are no text in it. -/
inductive Escapes (c : Client) (line : List Char) : Dial → Fault → Prop where
  | request {s : Socket Remote} {f : Fault} (hclose : s.closeFault = none)
      (hencode : Charset.encodeBy c.charset (line ++ ['\n']) = .error f) :
      Escapes c line (.reached s) f
  | answer {s : Socket Remote} {heard stream : Bytes} {script : Script} {e : StreamEnd} {f : Fault}
      (hclose : s.closeFault = none)
      (hencode : Charset.encodeBy c.charset (line ++ ['\n']) = .ok heard)
      (hsend : s.sendFault = none) (hpeer : s.peer = .script script)
      (hstream : Delivers c.bufferSize script stream e) (hend : lineFeed ∈ stream ∨ e = .closed)
      (hne : stream ≠ [])
      (hdecode : Charset.decodeBy c.charset (trimReturns (stream.takeWhile (· ≠ lineFeed))) = .error f) :
      Escapes c line (.reached s) f

/-- What escapes over what fails in the ways of the operating system only are the failures that are
not of the operating system. -/
theorem escapes_iff (hd : d.Calm c.bufferSize) :
    c.Escapes line d f ↔ c.Tagged line d (.error f) ∧ f.isSystem = false := by
  constructor
  · intro h
    cases h with
    | request hclose hencode =>
      exact ⟨.unencodable hclose hencode, Charset.not_isSystem_of_encodeBy hencode⟩
    | answer hclose hencode hsend hpeer hstream hend hne hdecode =>
      have htagged := Tagged.answered hclose hencode hsend hpeer hstream hend
      rw [answerOf_eq_error_iff.2 ⟨hne, hdecode⟩] at htagged
      exact ⟨htagged, Charset.not_isSystem_of_decodeBy hdecode⟩
  · rintro ⟨h, hf⟩
    generalize hr : (Except.error f : Except Fault (Option (List Char))) = r at h
    -- what is not of the system was neither met on the way nor heard from the other end
    cases hd with
    | fault hsystem =>
      cases h
      cases hr
      rw [hsystem] at hf
      cases hf
    | @reached s script hpeer hcalm hsend hclose =>
    cases h with
    | unclosed hfault =>
      cases hr
      rw [hclose f hfault] at hf
      cases hf
    | unencodable hclose hencode =>
      cases hr
      exact .request hclose hencode
    | unsent _ _ hfault =>
      cases hr
      rw [hsend f hfault] at hf
      cases hf
    | broken _ _ _ hpeer' hstream =>
      cases hr
      obtain rfl : script = _ := Remote.script.inj (hpeer.symm.trans hpeer')
      rw [hstream.isSystem hcalm] at hf
      cases hf
    | answered hclose hencode hsend hpeer hstream hend =>
      obtain ⟨hne, hdecode⟩ := answerOf_eq_error_iff.1 hr.symm
      exact .answer hclose hencode hsend hpeer hstream hend hne hdecode

end Client

namespace Dialogue

variable {c : Client} {n : Network} {name : String} {codec : Codec} {f : Fault}

/-- A dialogue over these lines and what the attempts to connect for them come to lets a fault escape:
the first exchange that is not answered does. -/
inductive Escapes (c : Client) : List (List Char × Dial) → Fault → Prop where
  | now {line : List Char} {d : Dial} {rest : List (List Char × Dial)} {f : Fault}
      (h : c.Escapes line d f) : Escapes c ((line, d) :: rest) f
  | later {line : List Char} {d : Dial} {rest : List (List Char × Dial)} {f : Fault}
      {answer : Option (List Char)} (h : c.Tagged line d (.ok answer)) (hrest : Escapes c rest f) :
      Escapes c ((line, d) :: rest) f

theorem result_tagAll_cons (c : Client) (n : Network) (line : List Char) (rest : List (List Char)) :
    (tagAll c n (line :: rest)).result = match (c.tag n line).1.result with
      | .ok _ => (tagAll c (c.tag n line).2 rest).result
      | .error f => if f.isSystem then .ok 1 else .error f := by
  rw [tagAll]
  obtain ⟨⟨es, result⟩, m⟩ := c.tag n line
  cases result with
  | ok answer => rfl
  | error f =>
    dsimp only
    split <;> rfl

/-- An exit status tells of a failed connection or of none. -/
theorem status_tagAll {lines : List (List Char)} {status : Nat}
    (h : (tagAll c n lines).result = .ok status) : status = 0 ∨ status = 1 := by
  induction lines generalizing n with
  | nil => exact .inl (Except.ok.inj h).symm
  | cons line rest ih =>
    rw [result_tagAll_cons] at h
    cases htag : (c.tag n line).1.result with
    | ok answer =>
      rw [htag] at h
      exact ih h
    | error f =>
      rw [htag] at h
      dsimp only at h
      split at h
      · exact .inr (Except.ok.inj h).symm
      · cases h

theorem tagAll_eq_error_iff (hbuffer : ¬c.bufferSize.isNull) {lines : List (List Char)}
    (hdials : ∀ d ∈ n.dials, d.Calm c.bufferSize) :
    (tagAll c n lines).result = .error f ↔ Escapes c (lines.zip n.dials) f := by
  induction lines generalizing n with
  | nil =>
    constructor
    · intro h
      cases h
    · intro h
      cases h
  | cons line rest ih =>
    rw [result_tagAll_cons]
    cases hd : n.dials with
    | nil =>
      rw [Client.result_tag_nil hd]
      constructor
      · intro h
        cases h
      · intro h
        cases h
    | cons d dials =>
      have hcalm : d.Calm c.bufferSize := hdials d (hd ▸ List.mem_cons_self)
      have hrest : (c.tag n line).2.dials = dials := by rw [Client.dials_tag, hd, List.tail_cons]
      have hlater := ih (n := (c.tag n line).2) fun d' hd' =>
        hdials d' (hd ▸ List.mem_cons_of_mem d (hrest ▸ hd'))
      have htagged : ∀ r, (c.tag n line).1.result = r ↔ c.Tagged line d r :=
        fun r => Client.result_tag_iff hbuffer hcalm hd
      rw [hrest] at hlater
      rw [List.zip_cons_cons]
      cases htag : (c.tag n line).1.result with
      | ok answer =>
        refine hlater.trans ⟨.later ((htagged _).1 htag), fun h => ?_⟩
        cases h with
        | later _ hrest => exact hrest
        | now h =>
          have herror := (htagged _).2 ((Client.escapes_iff hcalm).1 h).1
          cases htag.symm.trans herror
      | error g =>
        dsimp only
        constructor
        · intro h
          split at h
          · cases h
          · next hg =>
            cases h
            exact .now ((Client.escapes_iff hcalm).2 ⟨(htagged _).1 htag, by simpa using hg⟩)
        · intro h
          cases h with
          | now h =>
            obtain ⟨h, hf⟩ := (Client.escapes_iff hcalm).1 h
            cases htag.symm.trans ((htagged _).2 h)
            rw [if_neg (by simp [hf])]
          | later h _ => cases htag.symm.trans ((htagged _).2 h)

/-- Under a charset that converts text only its refusals escape. -/
theorem Escapes.isUnencodable_or (hname : c.charset.text? = some name)
    (hfault : Charset.nameFault? name = none) (hfind : Charset.find? name = some codec)
    (hcodec : codec.convertsText = true) {exchanges : List (List Char × Dial)}
    (h : Escapes c exchanges f) : f.isUnencodable = true ∨ f.isUndecodable = true := by
  induction h with
  | later _ _ ih => exact ih
  | now h =>
    cases h with
    | request _ hencode =>
      rw [Charset.encodeBy_of_text? hname] at hencode
      exact .inl (Charset.isUnencodable_of_encode hfault hfind hcodec hencode)
    | answer _ _ _ _ _ _ _ hdecode =>
      rw [Charset.decodeBy_of_text? hname] at hdecode
      exact .inr (Charset.isUndecodable_of_decode hfault hfind hcodec hdecode)

theorem calm_script {arrivals : List Arrival} {id : Nat} {k : Int}
    (hfaults : ∀ f, .fault f ∈ arrivals → f.isSystem = true)
    (hgates : ∀ gate, .blocked gate ∉ arrivals) :
    (Dial.reached { id, peer := .script { arrivals } }).Calm (.int k) := by
  have hcalm : Peer.Always Peer.Calm ({ arrivals } : Script) (.int k) :=
    Script.always (fun _ => trivial) (by simp) hfaults (fun gate h => absurd h (hgates gate)) k
  exact .reached rfl hcalm (by simp) (by simp)

end Dialogue

end LineTagger
