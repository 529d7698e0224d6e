import LineTagger.Proofs.Charset.Spelled
import LineTagger.Proofs.Client.Answer
import LineTagger.Proofs.Session.Discipline

/-!
A line that a client has tagged by a server: the request reaches the classifier as it was, and the
client reads what the classifier answered.
-/

namespace LineTagger

open Connection

variable {σ : Type}

namespace Session

theorem Course.responded_eq {c : Connection σ} {s : Service} {line : List Char} {v : Value} {bs : Bytes}
    {r : Run Outcome} (h : Course c s (.ok (some line)) r) (hline : line ≠ [])
    (hv : s.classifier.annotate line s.outputFormat s.preserveSpacing = .ok v)
    (hbytes : encodeLine c.charset v = .ok bs) (hsend : c.socket.sendFault = none) :
    acts r.events = [callFor s line, .socket c.socket.id (.send bs)] ∧ r.result = .ok .responded := by
  cases h with
  | noInput h => exact absurd h hline
  | unclassified _ h => simp [h] at hv
  | unencoded _ h hfault | unencodable _ h hfault =>
    obtain rfl := Except.ok.inj (h.symm.trans hv)
    simp [hfault] at hbytes
  | unsent _ _ _ hfault | unsendable _ _ _ hfault => simp [hfault] at hsend
  | responded _ h hbytes' =>
    obtain rfl := Except.ok.inj (h.symm.trans hv)
    obtain rfl := Except.ok.inj (hbytes'.symm.trans hbytes)
    exact ⟨rfl, rfl⟩

/-- A session over a stream that holds a request, on a socket that does not fail, responds. -/
theorem handle_responded [Peer σ] (settings : Settings) (classifier : Classifier) (channel : String)
    (id : Value) (now : Double) (socket : Socket σ) (address : Address) {m : Nat} {stream : Bytes}
    {e : StreamEnd} {line : List Char} {v : Value} {bs : Bytes}
    (hlimit : settings.maxLineBytes = .int m)
    (hstream : Delivers settings.bufferSize socket.peer stream e)
    (hread : requestLine settings.charset m stream e = .ok (some line)) (hline : line ≠ [])
    (hv : classifier.annotate line (.format settings.outputFormat) settings.preserveSpacing = .ok v)
    (hbytes : encodeLine settings.charset v = .ok bs) (htimeout : socket.timeoutFault = none)
    (hsend : socket.sendFault = none) (hshutdown : ∀ f ∈ socket.shutdownFault, f.isSystem = true)
    (hclose : ∀ f ∈ socket.closeFault, f.isSystem = true) :
    (∃ k, acts (handle settings classifier channel id now socket address).events =
      .socket socket.id (.setTimeout settings.readTimeout) ::
        (List.replicate (k + 1) (.socket socket.id (.receive settings.bufferSize)) ++
          [.classify classifier.kind line (.format settings.outputFormat) settings.preserveSpacing,
            .socket socket.id (.send bs), .socket socket.id .shutdown,
            .socket socket.id .close])) ∧
    (handle settings classifier channel id now socket address).stop = .ended (.ok .responded) := by
  obtain ⟨c, hc⟩ : ∃ c, c = connectionOf settings socket address channel id now := ⟨_, rfl⟩
  obtain ⟨s, hs⟩ : ∃ s, s = serviceOf settings classifier channel now := ⟨_, rfl⟩
  have hstop : c.readLine.stop = .done (.ok (some line)) := by
    rw [← hread, hc]
    exact stop_readLine hlimit hstream
  obtain ⟨r, hcourse, hhandle⟩ := handle_course htimeout hc hs hstop hshutdown hclose
  obtain ⟨hacts, hresult⟩ := hcourse.responded_eq hline (by rw [hs]; exact hv)
    (by rw [hc]; exact hbytes) (by rw [hc]; exact hsend)
  obtain ⟨k, hserved⟩ := acts_served c s r.events settings.readTimeout (now.sub now)
  rw [hacts, List.append_assoc (List.replicate _ _)] at hserved
  rw [hhandle, hresult]
  subst hc hs
  exact ⟨⟨k, hserved⟩, rfl⟩

end Session

namespace Charset

variable {name : String} {w : Spelling} {s : List Char} {bs : Bytes}

theorem SpelledBy.encode_line (h : SpelledBy name w) (hs : encode name s = .ok bs) :
    encode name (s ++ ['\n']) = .ok (bs ++ [lineFeed]) :=
  (h.encode_iff _ _).2 (h.plain.spells_lineFeed ((h.encode_iff _ _).1 hs))

theorem SpelledBy.decode_encode (h : SpelledBy name w) (hs : encode name s = .ok bs) :
    decode name bs = .ok s :=
  h.decode_eq ((h.encode_iff _ _).1 hs)

theorem SpelledBy.lineFeed_notMem (h : SpelledBy name w) (hs : encode name s = .ok bs)
    (hfeed : '\n' ∉ s) : lineFeed ∉ bs := by
  intro hmem
  exact hfeed ((h.plain.mem_spells ((h.encode_iff _ _).1 hs) (by decide)).1 hmem)

theorem SpelledBy.getLast?_ne (h : SpelledBy name w) (hs : encode name s = .ok bs)
    (hlast : s.getLast? ≠ some '\r') : bs.getLast? ≠ some carriageReturn := by
  intro hbyte
  exact hlast (h.plain.getLast?_spells ((h.encode_iff _ _).1 hs) (by decide) hbyte)

theorem SpelledBy.requestLine_eq (h : SpelledBy name w) (hs : encode name s = .ok bs)
    (hfeed : '\n' ∉ s) (hlast : s.getLast? ≠ some '\r') {m : Nat} (hm : bs.length ≤ m) (e : StreamEnd) :
    requestLine (.text name) m (bs ++ [lineFeed]) e = .ok (some s) := by
  have hline := rawLine_append_lineFeed (m := m) (h.lineFeed_notMem hs hfeed) [] e
  have htrim : trimReturn bs = bs := by
    rw [trimReturn, if_neg (h.getLast?_ne hs hlast)]
  rw [requestLine, hline, if_neg (by omega), htrim, decodeLine, decodeBy_of_text? rfl, h.decode_encode hs]
  rfl

/-- What is sent for a text without a line feed: its bytes and one line feed. -/
theorem SpelledBy.encodeLine_eq (h : SpelledBy name w) {r : String} (hr : encode name r.toList = .ok bs)
    (hfeed : '\n' ∉ r.toList) : encodeLine (.text name) (.text r) = .ok (bs ++ [lineFeed]) := by
  have hlast : r.toList.getLast? ≠ some '\n' := by
    intro hlast
    exact hfeed (List.mem_of_getLast? hlast)
  simp only [encodeLine, lineText, Value.text?, if_neg hlast]
  exact (encodeBy_of_text? rfl _).trans (h.encode_line hr)

/-- What a client reads of the line that was sent, whatever it has gathered of it and of what follows. -/
theorem SpelledBy.answerOf_eq (h : SpelledBy name w) (hs : encode name s = .ok bs) (hfeed : '\n' ∉ s)
    (hlast : s.getLast? ≠ some '\r') {got rest : Bytes} (hmem : lineFeed ∈ got)
    (hparts : bs ++ [lineFeed] = got ++ rest) : Client.answerOf (.text name) got = .ok (some s) := by
  rw [Client.answerOf_line (h.lineFeed_notMem hs hfeed) (h.getLast?_ne hs hlast) hmem hparts,
    decodeBy_of_text? rfl, h.decode_encode hs]
  rfl

end Charset

namespace Client

theorem ask_eq (c : Client) {s : Socket Remote} (hsend : s.sendFault = none) {text : List Char}
    {bs : Bytes} (h : Charset.encodeBy c.charset (text ++ ['\n']) = .ok bs) :
    c.ask s text = ⟨[.socket s.id (.send bs)], .ok bs⟩ := by
  rw [ask, h, Run.ofExcept_ok_bind, Socket.send, Socket.act, hsend]
  rfl

variable (c : Client) {n : Network} {text : List Char}

theorem exchange_eq {s : Socket Remote} {es fs gs : List Event} {heard bs : Bytes} {script : Script}
    (hask : c.ask s text = ⟨es, .ok heard⟩) (hreply : (s.peer.reply n heard).1 = ⟨fs, .ok script⟩)
    (hgather : c.gather s.id script = ⟨gs, .ok bs⟩) :
    (c.exchange s n text).1 = ⟨es ++ (fs ++ gs), answerOf c.charset bs⟩ := by
  simp only [exchange, hask, hreply, Run.mk_ok_bind, hgather, Run.ofExcept, List.append_nil]

theorem tag_eq {s : Socket Remote} {dials : List Dial} (hdial : n.dials = .reached s :: dials)
    (hclose : s.closeFault = none) {es : List Event} {r : Except Fault (Option (List Char))}
    (h : (c.exchange { s with id := n.sockets } { n with dials, sockets := n.sockets + 1 } text).1 =
      ⟨es, r⟩) :
    (c.tag n text).1 =
      ⟨.connect c.host c.port c.timeout :: (es ++ [.socket n.sockets .close]), r⟩ := by
  have hclosed : Socket.close { s with id := n.sockets } = ⟨[.socket n.sockets .close], .ok ()⟩ := by
    simp only [Socket.close, Socket.act, hclose, Run.guardFault, Run.emit_bind]
    rfl
  simp only [tag, connect, hdial, h, Run.mk_ok_bind, Run.attempt_bind, hclosed, Run.ofExcept]
  rfl

end Client

theorem Remote.sentBytes_acts (es : List Event) : sentBytes (acts es) = sentBytes es := by
  apply flatMap_acts
  intro e he
  cases e <;> first | rfl | simp [Event.isAct] at he

theorem Remote.reply_server {n : Network} {heard : Bytes} {settings : Settings} {classifier : Classifier}
    {channel : String} {r : SessionRun Script} {o : Outcome}
    (hr : r = Session.handle settings classifier channel (connectionId (n.sessions + 1)) n.now
      { id := n.sockets, peer := { arrivals := (n.requestPieces heard).map .bytes } }
      Remote.clientAddress)
    (hstop : r.stop = .ended (.ok o)) :
    (Remote.reply n heard (.server settings classifier channel)).1 =
      ⟨r.events ++ [.outcome o],
        .ok { arrivals := (n.replyPieces (Remote.sentBytes r.events)).map .bytes }⟩ := by
  subst hr
  simp only [Remote.reply, hstop]

/-- What a client does and gets over a socket that does not fail, at the other end of which a server's
session ends well. -/
theorem Client.tag_server (c : Client) {n : Network} {socket : Socket Remote} {dials : List Dial}
    {settings : Settings} {classifier : Classifier} {channel : String} {text : List Char}
    {heard bs : Bytes} {r : SessionRun Script} {o : Outcome} {i : Nat}
    (hdial : n.dials = .reached socket :: dials)
    (hpeer : socket.peer = .server settings classifier channel) (hsend : socket.sendFault = none)
    (hclose : socket.closeFault = none)
    (henc : Charset.encodeBy c.charset (text ++ ['\n']) = .ok heard)
    (hr : r = Session.handle settings classifier channel (connectionId (n.sessions + 1)) n.now
      { id := n.sockets + 1, peer := { arrivals := (n.requestPieces heard).map .bytes } }
      Remote.clientAddress)
    (hstop : r.stop = .ended (.ok o))
    (hgather : c.gather n.sockets
      { arrivals := (n.replyPieces (Remote.sentBytes r.events)).map .bytes } =
      ⟨List.replicate i (.socket n.sockets (.receive c.bufferSize)), .ok bs⟩) :
    (c.tag n text).1.result = answerOf c.charset bs ∧
    acts (c.tag n text).1.events = .socket n.sockets (.send heard) ::
      (acts r.events ++ List.replicate i (.socket n.sockets (.receive c.bufferSize)) ++
        [.socket n.sockets .close]) := by
  have hask := c.ask_eq (s := { socket with id := n.sockets }) hsend henc
  have hreply := Remote.reply_server (n := { n with dials, sockets := n.sockets + 1 }) hr hstop
  rw [← hpeer] at hreply
  have htag := c.tag_eq hdial hclose (c.exchange_eq hask hreply hgather)
  have hact : Event.isAct (.socket n.sockets (.receive c.bufferSize)) = true := rfl
  rw [htag]
  refine ⟨rfl, ?_⟩
  show acts ([_] ++ (r.events ++ [_] ++ List.replicate _ _) ++ [_]) = _
  rw [acts_append, acts_append, acts_append, acts_append, acts_replicate hact]
  show _ :: (acts r.events ++ [] ++ _ ++ _) = _
  rw [List.append_nil]
  rfl

/-- A client that has a line tagged reads what the classifier answered. The classifier is called once,
with the line as it was, and the server sends the bytes of the answer and one line feed. -/
theorem tag_roundTrip (client : Client) (settings : Settings) (classifier : Classifier)
    (channel : String) (n : Network) (socket : Socket Remote) (dials : List Dial) (name : String)
    (hname : name ∈ ["utf-8", "ascii", "latin-1"]) (hclient : client.charset = .text name)
    (hserver : settings.charset = .text name) (k l m : Nat) (hk : 0 < k) (hl : 0 < l)
    (hclientBuffer : client.bufferSize = .int k) (hserverBuffer : settings.bufferSize = .int l)
    (hlimit : settings.maxLineBytes = .int m) (hdial : n.dials = .reached socket :: dials)
    (hpeer : socket.peer = .server settings classifier channel) (hsend : socket.sendFault = none)
    (hclose : socket.closeFault = none) (hrequest : Cuts n.requestPieces) (hreply : Cuts n.replyPieces)
    (s : List Char) (sb : Bytes) (hs : s ≠ []) (hfeed : '\n' ∉ s)
    (hreturn : s.getLast? ≠ some '\r') (hsb : Charset.encode name s = .ok sb) (hm : sb.length ≤ m)
    (r : String) (rb : Bytes)
    (hr : classifier.annotate s (.format settings.outputFormat) settings.preserveSpacing = .ok (.text r))
    (hrfeed : '\n' ∉ r.toList) (hrreturn : r.toList.getLast? ≠ some '\r')
    (hrb : Charset.encode name r.toList = .ok rb) :
    (client.tag n s).1.result = .ok (some r.toList) ∧
    calls (client.tag n s).1.events =
      [.classify classifier.kind s (.format settings.outputFormat) settings.preserveSpacing] ∧
    sentOn (n.sockets + 1) (client.tag n s).1.events = rb ++ [lineFeed] := by
  obtain ⟨w, hw⟩ := Charset.spelledBy_of_mem hname
  -- the session that serves the request
  obtain ⟨peer, hscript⟩ : ∃ peer : Script,
      peer = { arrivals := (n.requestPieces (sb ++ [lineFeed])).map .bytes } := ⟨_, rfl⟩
  have hstream : Delivers settings.bufferSize peer (sb ++ [lineFeed]) .closed := by
    rw [hserverBuffer, hscript]
    exact hrequest.delivers (by simp) hl
  have hread : requestLine settings.charset m (sb ++ [lineFeed]) .closed = .ok (some s) := by
    rw [hserver]
    exact hw.requestLine_eq hsb hfeed hreturn hm .closed
  have hbytes : encodeLine settings.charset (.text r) = .ok (rb ++ [lineFeed]) := by
    rw [hserver]
    exact hw.encodeLine_eq hrb hrfeed
  obtain ⟨served, hserved⟩ : ∃ served, served = Session.handle settings classifier channel
      (connectionId (n.sessions + 1)) n.now { id := n.sockets + 1, peer } Remote.clientAddress :=
    ⟨_, rfl⟩
  obtain ⟨⟨j, hacts⟩, hstop⟩ := Session.handle_responded settings classifier channel
    (connectionId (n.sessions + 1)) n.now { id := n.sockets + 1, peer } Remote.clientAddress hlimit
    hstream hread hs hr hbytes rfl rfl (by simp) (by simp)
  rw [← hserved] at hacts hstop
  have hsent : Remote.sentBytes served.events = rb ++ [lineFeed] := by
    rw [← Remote.sentBytes_acts, hacts]
    simp [Remote.sentBytes]
  -- the client that reads the reply
  have hanswer : Delivers client.bufferSize
      ({ arrivals := (n.replyPieces (Remote.sentBytes served.events)).map .bytes } : Script)
      (rb ++ [lineFeed]) .closed := by
    rw [hclientBuffer, hsent]
    exact hreply.delivers (by simp) hk
  obtain ⟨i, bs, rest, hgather, hparts, hmem⟩ := client.gather_of_mem n.sockets
    (by simp [hclientBuffer, Value.isNull]) hanswer (by simp)
  have hline : Client.answerOf client.charset bs = .ok (some r.toList) := by
    rw [hclient]
    exact hw.answerOf_eq hrb hrfeed hrreturn hmem hparts
  have henc : Charset.encodeBy client.charset (s ++ ['\n']) = .ok (sb ++ [lineFeed]) := by
    rw [hclient]
    exact hw.encode_line hsb
  obtain ⟨hresult, htagged⟩ := client.tag_server hdial hpeer hsend hclose henc
    (hscript ▸ hserved) hstop hgather
  rw [hacts] at htagged
  refine ⟨hresult.trans hline, ?_, ?_⟩
  · rw [← calls_acts, htagged]
    simp [calls, Event.isCall, List.filter_cons]
  · rw [← sentOn_acts, htagged]
    simp [sentOn, Event.sentOn, List.flatMap_replicate]

/-- A character of two bytes that arrives byte by byte, as long as the limit allows. -/
theorem tag_roundTrip_accent :
    let classifier : Classifier := ⟨"quote", fun line _ _ => .ok (.text (String.ofList ('<' :: line)))⟩
    let settings : Settings := { maxLineBytes := .int 2 }
    let client : Client := { bufferSize := .int 1 }
    let socket : Socket Remote := { id := 0, peer := .server settings classifier "" }
    let n : Network :=
      { dials := [.reached socket], now := default, requestPieces := List.map fun b => [b] }
    (client.tag n ['é']).1.result = .ok (some ['<', 'é']) ∧
    calls (client.tag n ['é']).1.events =
      [.classify "quote" ['é'] (.format .slashTags) (.bool true)] ∧
    sentOn 1 (client.tag n ['é']).1.events = [60, 195, 169, 10] := by
  intro classifier settings client socket n
  have hrequest : Charset.encode "utf-8" ['é'] = .ok [195, 169] := Charset.encode_utf8 _
  have hanswer : Charset.encode "utf-8" "<é".toList = .ok [60, 195, 169] := Charset.encode_utf8 _
  have hannotate : classifier.annotate ['é'] (.format .slashTags) (.bool true) =
    .ok (.text "<é") := rfl
  have hbytes : Cuts n.requestPieces := fun bs _ =>
    ⟨(List.flatMap_def ..).symm.trans (List.flatMap_singleton' bs), by simp [n]⟩
  have hwhole : Cuts n.replyPieces := fun bs hbs => ⟨List.append_nil bs, by simpa [n] using hbs⟩
  exact tag_roundTrip client settings classifier "" n socket [] "utf-8" (by decide) rfl rfl 1 4096 2
    (by decide) (by decide) rfl rfl rfl rfl rfl rfl rfl hbytes hwhole ['é'] [195, 169] (by decide)
    (by decide) (by decide) hrequest (by decide) "<é" [60, 195, 169] hannotate (by decide) (by decide)
    hanswer

end LineTagger
