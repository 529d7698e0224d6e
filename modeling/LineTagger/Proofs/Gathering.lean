import LineTagger.Proofs.Stream

/-!
Gathering a line, over any peer: what is shown meanwhile, when it is done, and why it fails.
-/

namespace LineTagger.Connection

variable {σ : Type} [Peer σ] (c : Connection σ)

/-- What one request for bytes comes to: it waits or fails, it brings the last bytes of the line, the
limit cannot be compared with or is exceeded, or gathering goes on. -/
inductive GatherStep (fuel : Nat) (bytes : Bytes) (count : Nat) (s : σ) : LineReading σ Bytes → Prop where
  | waits {gate : String} {t : σ} (h : Peer.receive s c.bufferSize = (.waits gate, t)) :
      GatherStep fuel bytes count s ⟨[], t, .parked gate ⟨fuel + 1, bytes, count⟩⟩
  | fault {f : Fault} {t : σ} (h : Peer.receive s c.bufferSize = (.fault f, t)) :
      GatherStep fuel bytes count s ⟨[], t, .done (.error f)⟩
  | last {chunk : Bytes} {t : σ} (h : Peer.receive s c.bufferSize = (.bytes chunk, t))
      (hchunk : chunk = [] ∨ lineFeed ∈ chunk) :
      GatherStep fuel bytes count s ⟨[], t, .done (lineOf c.maxLineBytes (bytes.reverse ++ chunk))⟩
  | unlimited {chunk : Bytes} {t : σ} {f : Fault}
      (h : Peer.receive s c.bufferSize = (.bytes chunk, t))
      (hlimit : Limit.exceeds (count + chunk.length : Nat) c.maxLineBytes = .error f) :
      GatherStep fuel bytes count s ⟨[], t, .done (.error f)⟩
  | tooLong {chunk : Bytes} {t : σ} (h : Peer.receive s c.bufferSize = (.bytes chunk, t))
      (hlimit : Limit.exceeds (count + chunk.length : Nat) c.maxLineBytes = .ok true) :
      GatherStep fuel bytes count s ⟨[], t, .done (.error (.lineTooLong c.maxLineBytes))⟩
  | more {chunk : Bytes} {t : σ} (h : Peer.receive s c.bufferSize = (.bytes chunk, t))
      (hchunk : chunk ≠ []) (hmem : lineFeed ∉ chunk)
      (hlimit : Limit.exceeds (count + chunk.length : Nat) c.maxLineBytes = .ok false) :
      GatherStep fuel bytes count s
        { c.gatherFrom fuel (chunk.reverse ++ bytes) (count + chunk.length) t with
          events := .socket c.socket.id (.receive c.bufferSize) ::
            (c.gatherFrom fuel (chunk.reverse ++ bytes) (count + chunk.length) t).events }

theorem gatherFrom_step (fuel : Nat) (bytes : Bytes) (count : Nat) (s : σ) :
    c.GatherStep fuel bytes count s (c.gatherFrom (fuel + 1) bytes count s) := by
  cases hreceive : Peer.receive s c.bufferSize with
  | mk d t =>
    cases d with
    | waits gate =>
      rw [gatherFrom, hreceive]
      exact .waits hreceive
    | fault f =>
      rw [gatherFrom_fault _ _ _ hreceive]
      exact .fault hreceive
    | bytes chunk =>
      by_cases hmem : lineFeed ∈ chunk
      · rw [gatherFrom_lineFeed _ _ _ hreceive hmem]
        exact .last hreceive (.inr hmem)
      by_cases hchunk : chunk = []
      · subst hchunk
        rw [gatherFrom_closed _ _ _ hreceive, ← List.append_nil bytes.reverse]
        exact .last hreceive (.inl rfl)
      rw [gatherFrom_piece _ _ _ hreceive hchunk hmem]
      cases hlimit : Limit.exceeds (count + chunk.length : Nat) c.maxLineBytes with
      | error f => exact .unlimited hreceive hlimit
      | ok exceeded =>
        cases exceeded with
        | true => exact .tooLong hreceive hlimit
        | false => exact .more hreceive hchunk hmem hlimit

/-- While a line is gathered, nothing but requests for bytes is shown. -/
theorem events_gatherFrom (fuel : Nat) (bytes : Bytes) (count : Nat) (s : σ) :
    ∃ k, (c.gatherFrom fuel bytes count s).events =
      List.replicate k (.socket c.socket.id (.receive c.bufferSize)) := by
  induction fuel generalizing bytes count s with
  | zero => exact ⟨0, rfl⟩
  | succ fuel ih =>
    have hstep := c.gatherFrom_step fuel bytes count s
    generalize c.gatherFrom (fuel + 1) bytes count s = r at hstep ⊢
    cases hstep with
    | waits | fault | last | unlimited | tooLong => exact ⟨0, rfl⟩
    | @more chunk t =>
      obtain ⟨k, hk⟩ := ih (chunk.reverse ++ bytes) (count + chunk.length) t
      exact ⟨k + 1, by rw [hk, List.replicate_succ]⟩

theorem events_readLine :
    ∃ k, c.readLine.events = .stage c.socket.id .reading ::
      List.replicate (k + 1) (.socket c.socket.id (.receive c.bufferSize)) := by
  obtain ⟨k, hk⟩ := c.events_gatherFrom c.requests [] 0 c.socket.peer
  refine ⟨k, ?_⟩
  simp only [readLine, decoded, gatherLine, gather, hk, List.replicate_succ]

/-- A peer that answers all requests lets a line be gathered. -/
theorem gatherFrom_done (fuel : Nat) (bytes : Bytes) (count : Nat) {s : σ}
    (h : Peer.Always Peer.Answered s c.bufferSize) :
    ∃ gathered, (c.gatherFrom fuel bytes count s).stop = .done gathered := by
  induction fuel generalizing bytes count s with
  | zero => exact ⟨_, rfl⟩
  | succ fuel ih =>
    have hhead := h.head
    have htail := h.tail
    have hstep := c.gatherFrom_step fuel bytes count s
    generalize c.gatherFrom (fuel + 1) bytes count s = r at hstep ⊢
    cases hstep with
    | waits hreceive =>
      rw [hreceive] at hhead
      exact absurd rfl (hhead _)
    | fault | last | unlimited | tooLong => exact ⟨_, rfl⟩
    | more hreceive =>
      rw [hreceive] at htail
      exact ih _ _ htail

theorem gatherLine_done (h : Peer.Always Peer.Answered c.socket.peer c.bufferSize) :
    ∃ gathered, c.gatherLine.stop = .done gathered :=
  c.gatherFrom_done c.requests [] 0 h

variable {c} {f : Fault}

theorem lineOf_error {limit : Value} {buffer : Bytes} (h : lineOf limit buffer = .error f) :
    f.isLineTooLong = true ∨ ∃ n : Int, Limit.exceeds n limit = .error f := by
  unfold lineOf at h
  split at h
  · cases h
  · dsimp only at h
    split at h
    · next f' hlimit =>
      cases h
      exact .inr ⟨_, hlimit⟩
    · cases h
      exact .inl rfl
    · cases h

/-- Gathering a line fails with a fault of the peer, for the length of the line, or because the limit is
no number. -/
theorem gatherFrom_error {fuel : Nat} {bytes : Bytes} {count : Nat} {s : σ}
    (h : (c.gatherFrom fuel bytes count s).stop = .done (.error f)) :
    (∃ k, (Peer.receive (Peer.after c.bufferSize k s) c.bufferSize).1 = .fault f) ∨
    f.isLineTooLong = true ∨ ∃ n : Int, Limit.exceeds n c.maxLineBytes = .error f := by
  induction fuel generalizing bytes count s with
  | zero =>
    cases h
    exact .inr (.inl rfl)
  | succ fuel ih =>
    have hstep := c.gatherFrom_step fuel bytes count s
    generalize c.gatherFrom (fuel + 1) bytes count s = r at hstep h
    cases hstep with
    | waits => cases h
    | fault hreceive =>
      cases h
      exact .inl ⟨0, congrArg Prod.fst hreceive⟩
    | last => exact .inr (lineOf_error (LineStop.done.inj h))
    | unlimited _ hlimit =>
      cases h
      exact .inr (.inr ⟨_, hlimit⟩)
    | tooLong =>
      cases h
      exact .inr (.inl rfl)
    | more hreceive =>
      obtain ⟨k, hk⟩ | hlimit := ih h
      · refine .inl ⟨k + 1, ?_⟩
        rw [Peer.after, hreceive]
        exact hk
      · exact .inr hlimit

section

variable {charset : Value} {gathered : Except Fault (Option Bytes)}

theorem decodeLine_eq_error_iff : decodeLine charset gathered = .error f ↔
    gathered = .error f ∨
    ∃ line, gathered = .ok (some line) ∧ Charset.decodeBy charset line = .error f := by
  unfold decodeLine
  split
  · simp
  · simp
  · next line =>
    cases h : Charset.decodeBy charset line <;> simp [Except.map, h]

theorem decodeLine_eq_some_iff {text : List Char} : decodeLine charset gathered = .ok (some text) ↔
    ∃ line, gathered = .ok (some line) ∧ Charset.decodeBy charset line = .ok text := by
  unfold decodeLine
  split
  · simp
  · simp
  · next line =>
    cases h : Charset.decodeBy charset line <;> simp [Except.map, h]

end

theorem stop_readLine_of_gatherLine {gathered : Except Fault (Option Bytes)}
    (h : c.gatherLine.stop = .done gathered) :
    c.readLine.stop = .done (decodeLine c.charset gathered) := by
  simp only [readLine, decoded, h]

theorem readLine_done (h : Peer.Always Peer.Answered c.socket.peer c.bufferSize) :
    ∃ read, c.readLine.stop = .done read := by
  obtain ⟨gathered, hgathered⟩ := c.gatherLine_done h
  exact ⟨_, stop_readLine_of_gatherLine hgathered⟩

/-- A text that was read is one that was gathered as bytes and decoded. -/
theorem gatherLine_of_readLine {text : List Char} (h : c.readLine.stop = .done (.ok (some text))) :
    ∃ line, c.gatherLine.stop = .done (.ok (some line)) ∧
      Charset.decodeBy c.charset line = .ok text := by
  simp only [readLine, decoded] at h
  split at h
  · next gathered hgather =>
    obtain ⟨line, rfl, hdecode⟩ := decodeLine_eq_some_iff.1 (LineStop.done.inj h)
    exact ⟨line, hgather, hdecode⟩
  · cases h

end LineTagger.Connection
