import LineTagger.Proofs.Stream
import Mathlib.Data.List.TakeWhile

/-!
The request line as a function of the whole stream: reading gives the same line, or fails in the same
way, however the stream is cut into pieces and whatever the number of bytes that is asked for.
-/

namespace LineTagger

open Connection

/-- The bytes of the request line of a stream, no more of them than the limit. A line feed ends the
line; without one the stream has to end. -/
def rawLine (limit : Nat) (stream : Bytes) (e : StreamEnd) : Except Fault (Option Bytes) :=
  if lineFeed ∈ stream then
    let line := stream.takeWhile (· ≠ lineFeed)
    if limit < line.length then .error (.lineTooLong (.int limit)) else .ok (some (trimReturn line))
  else if limit < stream.length then .error (.lineTooLong (.int limit))
  else match e with
    | .fault f => .error f
    | .closed => .ok (if stream = [] then none else some (trimReturn stream))

/-- The request line of a stream. -/
def requestLine (charset : Value) (limit : Nat) (stream : Bytes) (e : StreamEnd) :
    Except Fault (Option (List Char)) :=
  decodeLine charset (rawLine limit stream e)

@[simp] theorem Limit.exceeds_int (count m : Int) :
    Limit.exceeds count (.int m) = .ok (decide (m < count)) := rfl

theorem takeWhile_of_notMem {bs : Bytes} (h : lineFeed ∉ bs) :
    bs.takeWhile (· ≠ lineFeed) = bs := by
  rw [List.takeWhile_eq_self_iff]
  intro b hb
  simpa using ne_of_mem_of_not_mem hb h

theorem takeWhile_append_lineFeed {line : Bytes} (h : lineFeed ∉ line) (rest : Bytes) :
    (line ++ lineFeed :: rest).takeWhile (· ≠ lineFeed) = line := by
  rw [List.takeWhile_append_of_pos]
  · simp
  · intro b hb
    simpa using ne_of_mem_of_not_mem hb h

theorem takeWhile_append_of_mem {bs : Bytes} (h : lineFeed ∈ bs) (rest : Bytes) :
    (bs ++ rest).takeWhile (· ≠ lineFeed) = bs.takeWhile (· ≠ lineFeed) := by
  obtain ⟨line, tail, rfl, hline⟩ := List.eq_append_cons_of_mem h
  rw [List.append_assoc, List.cons_append, takeWhile_append_lineFeed hline,
    takeWhile_append_lineFeed hline]

theorem lineOf_int {m : Nat} {buffer : Bytes} (h : buffer ≠ []) :
    lineOf (.int m) buffer =
      let line := buffer.takeWhile (· ≠ lineFeed)
      if m < line.length then .error (.lineTooLong (.int m)) else .ok (some (trimReturn line)) := by
  have hempty : buffer.isEmpty = false := by simpa using h
  by_cases hm : m < (buffer.takeWhile (· ≠ lineFeed)).length
  · simp only [lineOf, hempty, Limit.exceeds_int, Int.ofNat_lt, hm, decide_true, if_true,
      Bool.false_eq_true, if_false]
  · simp only [lineOf, hempty, Limit.exceeds_int, Int.ofNat_lt, hm, decide_false,
      Bool.false_eq_true, if_false]

/-- As soon as a line feed has come, the line is that of the whole stream. -/
theorem lineOf_of_mem {m : Nat} {buffer : Bytes} (h : lineFeed ∈ buffer) (rest : Bytes)
    (e : StreamEnd) : lineOf (.int m) buffer = rawLine m (buffer ++ rest) e := by
  rw [lineOf_int (List.ne_nil_of_mem h)]
  unfold rawLine
  rw [if_pos (List.mem_append_left _ h), takeWhile_append_of_mem h]

theorem lineOf_of_notMem {m : Nat} {buffer : Bytes} (h : lineFeed ∉ buffer)
    (hm : buffer.length ≤ m) : lineOf (.int m) buffer = rawLine m buffer .closed := by
  unfold rawLine
  rw [if_neg h, if_neg (by omega)]
  by_cases hempty : buffer = []
  · subst hempty
    rfl
  · rw [lineOf_int hempty, takeWhile_of_notMem h, if_neg hempty]
    exact if_neg (by omega)

/-- More bytes than the limit without a line feed are too many, whatever follows. -/
theorem rawLine_of_lt {m : Nat} {buffer : Bytes} (h : lineFeed ∉ buffer) (hm : m < buffer.length)
    (rest : Bytes) (e : StreamEnd) :
    rawLine m (buffer ++ rest) e = .error (.lineTooLong (.int m)) := by
  have hlong : m < ((buffer ++ rest).takeWhile (· ≠ lineFeed)).length := by
    rw [List.takeWhile_append_of_pos]
    · rw [List.length_append]
      omega
    · intro b hb
      simpa using ne_of_mem_of_not_mem hb h
  have hall : m < (buffer ++ rest).length := by
    rw [List.length_append]
    omega
  unfold rawLine
  rw [if_pos hall]
  simp only [hlong, if_true, ite_self]

section

variable {σ : Type} [Peer σ] {c : Connection σ} {m : Nat}

/-- Gathering with some bytes at hand comes to the line of these bytes and the stream. One request
more than the limit leaves bytes for is enough. -/
theorem stop_gatherFrom (hm : c.maxLineBytes = .int m) {s : σ} {stream : Bytes} {e : StreamEnd}
    (h : Delivers c.bufferSize s stream e) {fuel count : Nat} {bytes : Bytes}
    (hcount : count = bytes.length) (hfuel : m < fuel + count) (hlimit : count ≤ m)
    (hbytes : lineFeed ∉ bytes) :
    (c.gatherFrom fuel bytes count s).stop = .done (rawLine m (bytes.reverse ++ stream) e) := by
  obtain ⟨fuel, rfl⟩ : ∃ k, fuel = k + 1 := ⟨fuel - 1, by omega⟩
  induction h generalizing fuel bytes count with
  | closed h =>
    rw [gatherFrom_closed _ _ _ h, hm, List.append_nil,
      lineOf_of_notMem (by simpa using hbytes) (by simpa [← hcount] using hlimit)]
  | fault h =>
    have hshort : ¬ m < bytes.length := by omega
    simp [gatherFrom_fault _ _ _ h, rawLine, hbytes, hshort]
  | @piece s t chunk stream e h hchunk rest ih =>
    have hpos : 0 < chunk.length := List.length_pos_iff.2 hchunk
    rw [← List.append_assoc]
    by_cases hmem : lineFeed ∈ chunk
    · rw [gatherFrom_lineFeed _ _ _ h hmem, hm, lineOf_of_mem (List.mem_append_right _ hmem)]
    · have hnone : lineFeed ∉ bytes.reverse ++ chunk := by simpa using ⟨hbytes, hmem⟩
      rw [gatherFrom_piece _ _ _ h hchunk hmem, hm, Limit.exceeds_int]
      by_cases hlong : m < count + chunk.length
      · have hraw := rawLine_of_lt hnone (by simpa [← hcount] using hlong) stream e
        simp only [Int.ofNat_lt, hlong, decide_true, hraw]
      · obtain ⟨fuel, rfl⟩ : ∃ k, fuel = k + 1 := ⟨fuel - 1, by omega⟩
        have hcount' : count + chunk.length = (chunk.reverse ++ bytes).length := by
          simp [hcount, Nat.add_comm]
        have hnext := ih hcount' (by omega) (by simpa using ⟨hmem, hbytes⟩) fuel (by omega)
        simpa only [Int.ofNat_lt, hlong, decide_false, List.reverse_append,
          List.reverse_reverse] using hnext

theorem requests_int (hm : c.maxLineBytes = .int m) : c.requests = m + 1 := by
  simp [requests, hm, Limit.bound?, Value.quantity?]

theorem stop_gatherLine (hm : c.maxLineBytes = .int m) {stream : Bytes} {e : StreamEnd}
    (h : Delivers c.bufferSize c.socket.peer stream e) :
    c.gatherLine.stop = .done (rawLine m stream e) := by
  have hfuel : m < c.requests + 0 := by
    rw [requests_int hm]
    omega
  exact stop_gatherFrom hm h rfl hfuel (Nat.zero_le m) List.not_mem_nil

theorem stop_readLine (hm : c.maxLineBytes = .int m) {stream : Bytes} {e : StreamEnd}
    (h : Delivers c.bufferSize c.socket.peer stream e) :
    c.readLine.stop = .done (requestLine c.charset m stream e) := by
  simp only [readLine, decoded, stop_gatherLine hm h, requestLine]

end

theorem rawLine_append_lineFeed {m : Nat} {line : Bytes} (h : lineFeed ∉ line) (rest : Bytes)
    (e : StreamEnd) :
    rawLine m (line ++ lineFeed :: rest) e =
      if m < line.length then .error (.lineTooLong (.int m)) else .ok (some (trimReturn line)) := by
  unfold rawLine
  rw [if_pos (by simp), takeWhile_append_lineFeed h]

/-- Reading depends on the bytes of the stream, on its end, on the limit and on the charset alone:
not on the pieces in which the bytes come, not on the number of bytes that is asked for, and not on
what follows the first line feed. -/
theorem readLine_ofPieces (c : Connection Script) (pieces : List Bytes)
    (hpieces : ∀ piece ∈ pieces, piece ≠ []) (e : StreamEnd) (rest : List Arrival) (n m : Nat)
    (hn : 0 < n) (hbuffer : c.bufferSize = .int n) (hlimit : c.maxLineBytes = .int m)
    (hpeer : c.socket.peer = Script.ofPieces pieces e rest) :
    c.readLine.stop = .done (requestLine c.charset m pieces.flatten e) ∧
    ∀ line tail, pieces.flatten = line ++ lineFeed :: tail → lineFeed ∉ line →
      c.readLine.stop = .done (if m < line.length then .error (.lineTooLong (.int m))
        else (Charset.decodeBy c.charset (trimReturn line)).map some) := by
  have hstream : Delivers c.bufferSize c.socket.peer pieces.flatten e := by
    rw [hbuffer, hpeer]
    exact Script.delivers_ofPieces pieces hpieces e rest hn
  have hstop := stop_readLine hlimit hstream
  refine ⟨hstop, ?_⟩
  intro line tail hflatten hline
  rw [hstop, requestLine, hflatten, rawLine_append_lineFeed hline]
  split <;> rfl

/-- A line as long as the limit allows, its carriage return and line feed in different pieces. -/
theorem readLine_ofPieces_return_apart :
    ({ socket := { id := 0, peer := .ofPieces [[104, 105, 13], [10, 120]] .closed [] }
       address := default, bufferSize := .int 2, maxLineBytes := .int 3, channel := ""
       id := .null, createdAt := .null } : Connection Script).readLine.stop =
      .done (.ok (some ['h', 'i'])) := by
  have hline : requestLine (.text "utf-8") 3 [104, 105, 13, 10, 120] .closed =
      .ok (some ['h', 'i']) := rfl
  refine (readLine_ofPieces _ [[104, 105, 13], [10, 120]] (by decide) .closed [] 2 3 (by decide)
    rfl rfl rfl).1.trans ?_
  exact congrArg LineStop.done hline

end LineTagger
