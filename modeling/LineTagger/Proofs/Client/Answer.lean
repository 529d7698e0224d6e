import LineTagger.Client
import LineTagger.Proofs.RequestLine

/-!
The answer that a client reads: what the loop gathers of a stream, and the line in it.
-/

namespace LineTagger.Client

open Connection

variable (c : Client) (id : Nat) {s t : Script} {chunk : Bytes}

theorem gather_closed (h : s.receive c.bufferSize = (.bytes [], t)) :
    (c.gather id s).result = .ok [] := by
  rw [gather]
  split
  · next h' => simp [h] at h'
  · next h' => simp [h] at h'
  · next h' =>
    obtain ⟨rfl, rfl⟩ : [] = _ ∧ t = _ := by simpa [h] using h'
    rfl

theorem gather_fault {f : Fault} (h : s.receive c.bufferSize = (.fault f, t)) :
    (c.gather id s).result = .error f := by
  rw [gather]
  split
  · next h' =>
    obtain ⟨rfl, rfl⟩ : f = _ ∧ t = _ := by simpa [h] using h'
    rfl
  · next h' => simp [h] at h'
  · next h' => simp [h] at h'

theorem gather_lineFeed (h : s.receive c.bufferSize = (.bytes chunk, t)) (hmem : lineFeed ∈ chunk) :
    c.gather id s = ⟨[.socket id (.receive c.bufferSize)], .ok chunk⟩ := by
  have hchunk : chunk ≠ [] := List.ne_nil_of_mem hmem
  rw [gather]
  split
  · next h' => simp [h] at h'
  · next h' => simp [h] at h'
  · next h' =>
    obtain ⟨rfl, rfl⟩ : chunk = _ ∧ t = _ := by simpa [h] using h'
    simp [hchunk, hmem]

theorem gather_piece (h : s.receive c.bufferSize = (.bytes chunk, t)) (hchunk : chunk ≠ [])
    (hmem : lineFeed ∉ chunk) (hn : ¬c.bufferSize.isNull) :
    c.gather id s = ⟨.socket id (.receive c.bufferSize) :: (c.gather id t).events,
      (c.gather id t).result.map (chunk ++ ·)⟩ := by
  rw [gather]
  split
  · next h' => simp [h] at h'
  · next h' => simp [h] at h'
  · next h' =>
    obtain ⟨rfl, rfl⟩ : chunk = _ ∧ t = _ := by simpa [h] using h'
    simp [hchunk, hmem, hn]

/-- Of a stream with a line feed the loop gathers a part with a line feed in it. -/
theorem gather_of_mem (hn : ¬c.bufferSize.isNull) {stream : Bytes} {e : StreamEnd}
    (h : Delivers c.bufferSize s stream e) (hmem : lineFeed ∈ stream) :
    ∃ k bs rest, c.gather id s =
      ⟨List.replicate (k + 1) (.socket id (.receive c.bufferSize)), .ok bs⟩ ∧
      stream = bs ++ rest ∧ lineFeed ∈ bs := by
  induction h with
  | closed | fault => simp at hmem
  | @piece s t chunk stream e h hchunk rest ih =>
    by_cases hfeed : lineFeed ∈ chunk
    · exact ⟨0, chunk, stream, c.gather_lineFeed id h hfeed, rfl, hfeed⟩
    · have hlater : lineFeed ∈ stream := (List.mem_append.1 hmem).resolve_left hfeed
      obtain ⟨k, bs, after, hgather, hstream, hbs⟩ := ih hlater
      refine ⟨k + 1, chunk ++ bs, after, ?_, ?_, List.mem_append_right _ hbs⟩
      · rw [c.gather_piece id h hchunk hfeed hn, hgather, List.replicate_succ]
        rfl
      · rw [hstream, List.append_assoc]

/-- Of a stream without a line feed the loop gathers all, unless the stream ends with a failure. -/
theorem gather_of_notMem (hn : ¬c.bufferSize.isNull) {stream : Bytes} {e : StreamEnd}
    (h : Delivers c.bufferSize s stream e) (hmem : lineFeed ∉ stream) :
    (c.gather id s).result = match e with
      | .closed => .ok stream
      | .fault f => .error f := by
  induction h with
  | closed h => exact c.gather_closed id h
  | fault h => exact c.gather_fault id h
  | @piece s t chunk stream e h hchunk rest ih =>
    have hfeed : lineFeed ∉ chunk := fun hfeed => hmem (List.mem_append_left _ hfeed)
    have hlater : lineFeed ∉ stream := fun hlater => hmem (List.mem_append_right _ hlater)
    rw [c.gather_piece id h hchunk hfeed hn, ih hlater]
    cases e <;> rfl

theorem trimReturns_of_getLast? {bs : Bytes} (h : bs.getLast? ≠ some carriageReturn) :
    trimReturns bs = bs := by
  rw [List.getLast?_eq_head?_reverse] at h
  rw [trimReturns]
  cases hrev : bs.reverse with
  | nil => rw [List.dropWhile_nil, ← hrev, List.reverse_reverse]
  | cons b tl =>
    have hb : b ≠ carriageReturn := by
      intro hb
      rw [hrev, hb] at h
      exact h rfl
    rw [List.dropWhile_cons_of_neg (by simpa using hb), ← hrev, List.reverse_reverse]

theorem answerOf_append {charset : Value} {bs : Bytes} (h : lineFeed ∈ bs) (rest : Bytes) :
    answerOf charset bs = answerOf charset (bs ++ rest) := by
  have hne : bs ≠ [] := List.ne_nil_of_mem h
  rw [answerOf, answerOf, if_neg (by simpa using hne), if_neg (by simp [hne]),
    takeWhile_append_of_mem h]

theorem answerOf_eq_error_iff {charset : Value} {bs : Bytes} {f : Fault} :
    answerOf charset bs = .error f ↔
    bs ≠ [] ∧ Charset.decodeBy charset (trimReturns (bs.takeWhile (· ≠ lineFeed))) = .error f := by
  unfold answerOf
  by_cases hbs : bs = []
  · simp [hbs]
  · rw [if_neg (by simpa using hbs)]
    cases Charset.decodeBy charset (trimReturns (bs.takeWhile (· ≠ lineFeed))) <;>
      simp [hbs, Except.map]

/-- The answer that a client reads of a stream is the line before its first line feed. -/
theorem answerOf_line {charset : Value} {line bs rest rest' : Bytes} (hline : lineFeed ∉ line)
    (hlast : line.getLast? ≠ some carriageReturn) (hbs : lineFeed ∈ bs)
    (hstream : line ++ lineFeed :: rest = bs ++ rest') :
    answerOf charset bs = (Charset.decodeBy charset line).map some := by
  have htake : bs.takeWhile (· ≠ lineFeed) = line := by
    rw [← takeWhile_append_of_mem hbs rest', ← hstream, takeWhile_append_lineFeed hline]
  rw [answerOf, if_neg (by simpa using List.ne_nil_of_mem hbs), htake, trimReturns_of_getLast? hlast]

end LineTagger.Client
