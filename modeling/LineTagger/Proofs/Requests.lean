import LineTagger.Proofs.Gathering
import LineTagger.Proofs.RequestLine

/-!
What reading a line asks of its peer. Each request but the last brings bytes that are within the limit and do
not end the line, so the requests are no more than the limit and one, whatever the peer sends; and their
number is bounded by this alone, never by how many the program is ready to make.
-/

namespace LineTagger

open Connection

namespace Delivery

/-- How many bytes a delivery brings. -/
def size : Delivery → Nat
  | .bytes bs => bs.length
  | .fault _ | .waits _ => 0

/-- Whether a delivery answers the request. One that waits leaves it open until the gate has opened. -/
def isAnswer : Delivery → Bool
  | .bytes _ | .fault _ => true
  | .waits _ => false

/-- What a line goes on behind: bytes, with no line feed among them, and a gate. -/
def GoesOn : Delivery → Prop
  | .bytes bs => bs ≠ [] ∧ lineFeed ∉ bs
  | .fault _ => False
  | .waits _ => True

/-- How many bytes some deliveries bring together. -/
def volume : List Delivery → Nat
  | [] => 0
  | d :: ds => d.size + volume ds

variable {d : Delivery} {ds es : List Delivery}

@[simp] theorem volume_nil : volume [] = 0 := rfl

@[simp] theorem volume_cons : volume (d :: ds) = d.size + volume ds := rfl

@[simp] theorem volume_append : volume (ds ++ es) = volume ds + volume es := by
  induction ds with
  | nil => rw [List.nil_append, volume_nil, Nat.zero_add]
  | cons d ds ih => rw [List.cons_append, volume_cons, volume_cons, ih, Nat.add_assoc]

/-- Each request that a line goes on behind has brought a byte. -/
theorem countP_isAnswer_le (h : ∀ d ∈ ds, d.GoesOn) : ds.countP isAnswer ≤ volume ds := by
  induction ds with
  | nil => exact Nat.le_refl 0
  | cons d ds ih =>
    obtain ⟨hd, hds⟩ := List.forall_mem_cons.1 h
    have hrest := ih hds
    rw [List.countP_cons, volume_cons]
    cases d with
    | bytes bs =>
      have hpos : 0 < bs.length := List.length_pos_iff.2 hd.1
      simp only [isAnswer, size, if_true]
      omega
    | fault f => exact hd.elim
    | waits gate => simpa [isAnswer, size] using hrest

end Delivery

/-- A script brings no more bytes than it is asked for. -/
theorem Script.size_receive (s : Script) (n : Nat) : (s.receive (.int n)).1.size ≤ n := by
  unfold receive
  split
  · exact Nat.zero_le n
  · split
    case h_2 bs rest _ => exact List.length_take_le n bs
    all_goals exact Nat.zero_le n

variable {σ : Type} [Peer σ]

/-- Asking a peer for `n` bytes again and again brings these deliveries and leaves it in the last state. -/
inductive Peer.Brings (n : Value) : σ → List Delivery → σ → Prop where
  | nil {s : σ} : Brings n s [] s
  | cons {s t u : σ} {d : Delivery} {ds : List Delivery} (h : receive s n = (d, t))
      (rest : Brings n t ds u) : Brings n s (d :: ds) u

namespace Peer.Brings

variable {n : Value} {s t u : σ} {ds es : List Delivery}

theorem append (h : Brings n s ds t) (h' : Brings n t es u) : Brings n s (ds ++ es) u := by
  induction h with
  | nil => exact h'
  | cons hreceive _ ih => exact .cons hreceive (ih h')

theorem forall_mem {p : Delivery → Prop} (hp : Always p s n) (h : Brings n s ds t) : ∀ d ∈ ds, p d := by
  induction h with
  | nil => exact List.forall_mem_nil p
  | cons hreceive _ ih =>
    have hhead := hp.head
    have htail := hp.tail
    rw [hreceive] at hhead htail
    exact List.forall_mem_cons.2 ⟨hhead, ih htail⟩

end Peer.Brings

namespace Connection

variable (c : Connection σ)

/-- What reading comes to once the gate where it waits has opened; it keeps what it has shown. -/
def onward (r : LineReading σ (List Char)) : LineReading σ (List Char) :=
  match r.stop with
  | .done _ => r
  | .parked _ b =>
    let next := (c.afterReading r).readOn b
    { next with events := r.events ++ next.events }

/-- Reads a line, and on behind each of so many gates. -/
def readThrough : Nat → LineReading σ (List Char)
  | 0 => c.readLine
  | gates + 1 => c.onward (readThrough gates)

/-- What gathering asks of a peer in state `s` when `count` bytes have come: a request for each answer that
it goes on behind, the first one apart, which was shown before. It has passed so many gates if it stops at
one. -/
structure Draws {α : Type} (limit count gates : Nat) (s : σ) (start : List Event)
    (before : List Delivery) (last : Delivery) (r : LineReading σ α) : Prop where
  brings : Peer.Brings c.bufferSize s (before ++ [last]) r.peer
  goesOn : ∀ d ∈ before, d.GoesOn
  events : r.events = start ++
    List.replicate (before.countP Delivery.isAnswer) (.socket c.socket.id (.receive c.bufferSize))
  within : count + Delivery.volume before ≤ limit
  ended : last.GoesOn → last.isAnswer = true → limit < count + Delivery.volume (before ++ [last])
  parked : ∀ gate b, r.stop = .parked gate b → last = .waits gate ∧
    before.countP (!·.isAnswer) = gates ∧ b.count = count + Delivery.volume before ∧
    limit < b.fuel + b.count

variable {c} {m : Nat}

theorem Draws.decoded {count gates : Nat} {s : σ} {start : List Event} {before : List Delivery}
    {last : Delivery} {r : LineReading σ Bytes} (h : c.Draws m count gates s start before last r) :
    c.Draws m count gates s start before last (c.decoded r) := by
  refine ⟨h.brings, h.goesOn, h.events, h.within, h.ended, fun gate b hstop => h.parked gate b ?_⟩
  simp only [Connection.decoded] at hstop
  split at hstop
  · cases hstop
  · next hparked =>
    cases hstop
    exact hparked

/-- A stretch of gathering that may make more requests than the limit leaves bytes for stops for another
reason than their number. -/
theorem exists_draws_gatherFrom (hm : c.maxLineBytes = .int m) {fuel count : Nat} (bytes : Bytes) {s : σ}
    (hfuel : m < fuel + count) (hcount : count ≤ m) :
    ∃ before last, c.Draws m count 0 s [] before last (c.gatherFrom fuel bytes count s) := by
  induction fuel generalizing bytes count s with
  | zero => omega
  | succ fuel ih =>
    have hstep := c.gatherFrom_step fuel bytes count s
    generalize c.gatherFrom (fuel + 1) bytes count s = r at hstep ⊢
    cases hstep with
    | @waits gate t h =>
      refine ⟨[], .waits gate, .cons h .nil, List.forall_mem_nil _, rfl, hcount, fun _ hanswer => ?_, ?_⟩
      · cases hanswer
      · rintro gate b hstop
        cases hstop
        exact ⟨rfl, rfl, rfl, hfuel⟩
    | @fault f t h =>
      exact ⟨[], .fault f, .cons h .nil, List.forall_mem_nil _, rfl, hcount, fun hgoes => hgoes.elim,
        fun _ _ hstop => nomatch hstop⟩
    | @last chunk t h hchunk =>
      refine ⟨[], .bytes chunk, .cons h .nil, List.forall_mem_nil _, rfl, hcount, fun hgoes => ?_,
        fun _ _ hstop => nomatch hstop⟩
      exact (hchunk.elim hgoes.1 hgoes.2).elim
    | unlimited h hlimit =>
      rw [hm, Limit.exceeds_int] at hlimit
      cases hlimit
    | @tooLong chunk t h hlimit =>
      rw [hm, Limit.exceeds_int, Except.ok.injEq, decide_eq_true_eq, Int.ofNat_lt] at hlimit
      exact ⟨[], .bytes chunk, .cons h .nil, List.forall_mem_nil _, rfl, hcount, fun _ _ => hlimit,
        fun _ _ hstop => nomatch hstop⟩
    | @more chunk t h hchunk hmem hlimit =>
      rw [hm, Limit.exceeds_int, Except.ok.injEq, decide_eq_false_iff_not, Int.ofNat_lt] at hlimit
      have hpos : 0 < chunk.length := List.length_pos_iff.2 hchunk
      have hrest : m < fuel + (count + chunk.length) := by omega
      obtain ⟨before, last, hdraws⟩ := ih (chunk.reverse ++ bytes) (s := t) hrest (by omega)
      have hvolume (ds : List Delivery) : count + Delivery.volume (.bytes chunk :: ds) =
          count + chunk.length + Delivery.volume ds := (Nat.add_assoc _ _ _).symm
      refine ⟨.bytes chunk :: before, last, .cons h hdraws.brings,
        List.forall_mem_cons.2 ⟨⟨hchunk, hmem⟩, hdraws.goesOn⟩, ?_, ?_, ?_, ?_⟩
      · rw [List.countP_cons_of_pos rfl, List.replicate_succ]
        exact congrArg (_ :: ·) hdraws.events
      · rw [hvolume]
        exact hdraws.within
      · rw [List.cons_append, hvolume]
        exact hdraws.ended
      · rw [hvolume]
        exact hdraws.parked

theorem exists_draws_readOn (hm : c.maxLineBytes = .int m) {b : LineBuffer} (hfuel : m < b.fuel + b.count)
    (hcount : b.count ≤ m) :
    ∃ before last, c.Draws m b.count 0 c.socket.peer [] before last (c.readOn b) := by
  obtain ⟨before, last, hdraws⟩ := exists_draws_gatherFrom hm b.bytes hfuel hcount
  exact ⟨before, last, hdraws.decoded⟩

/-- Behind a gate reading goes on where it stood, so the bounds are those of both stretches together. -/
theorem Draws.onward (hm : c.maxLineBytes = .int m) {gates : Nat} {start : List Event}
    {before : List Delivery} {last : Delivery} {r : LineReading σ (List Char)}
    (h : c.Draws m 0 gates c.socket.peer start before last r) :
    ∃ before last, c.Draws m 0 (gates + 1) c.socket.peer start before last (c.onward r) := by
  cases hstop : r.stop with
  | done read =>
    have honward : c.onward r = r := by rw [Connection.onward, hstop]
    rw [honward]
    refine ⟨before, last, h.brings, h.goesOn, h.events, h.within, h.ended, fun gate b hparked => ?_⟩
    rw [hstop] at hparked
    cases hparked
  | parked gate b =>
    obtain ⟨rfl, hgates, hcount, hfuel⟩ := h.parked gate b hstop
    have hwithin := h.within
    obtain ⟨others, last, hnext⟩ :=
      exists_draws_readOn (c := c.afterReading r) hm hfuel (by omega)
    have honward : c.onward r = { (c.afterReading r).readOn b with
        events := r.events ++ ((c.afterReading r).readOn b).events } := by
      rw [Connection.onward, hstop]
    have hvolume (ds : List Delivery) :
        0 + Delivery.volume (before ++ .waits gate :: ds) = b.count + Delivery.volume ds := by
      rw [hcount, Delivery.volume_append, Delivery.volume_cons, Delivery.size]
      omega
    rw [honward]
    refine ⟨before ++ .waits gate :: others, last, ?_, ?_, ?_, ?_, ?_, ?_⟩
    · have hbrings := h.brings.append hnext.brings
      rwa [List.append_assoc, List.singleton_append, ← List.cons_append, ← List.append_assoc] at hbrings
    · exact List.forall_mem_append.2 ⟨h.goesOn, List.forall_mem_cons.2 ⟨trivial, hnext.goesOn⟩⟩
    · have hnone : ¬Delivery.isAnswer (.waits gate) = true := Bool.false_ne_true
      rw [List.countP_append, List.countP_cons_of_neg hnone, ← List.replicate_append_replicate,
        ← List.append_assoc, ← h.events]
      exact congrArg (r.events ++ ·) hnext.events
    · rw [hvolume]
      exact hnext.within
    · rw [List.append_assoc, List.cons_append, hvolume]
      exact hnext.ended
    · intro gate' b' hparked
      obtain ⟨hlast, hnone, hcount', hfuel'⟩ := hnext.parked gate' b' hparked
      refine ⟨hlast, ?_, ?_, hfuel'⟩
      · rw [List.countP_append, hgates, List.countP_cons_of_pos rfl, hnone]
      · rw [hvolume]
        exact hcount'

theorem exists_draws_readThrough (hm : c.maxLineBytes = .int m) (gates : Nat) :
    ∃ before last, c.Draws m 0 gates c.socket.peer
      [.stage c.socket.id .reading, .socket c.socket.id (.receive c.bufferSize)] before last
      (c.readThrough gates) := by
  induction gates with
  | zero =>
    have hfuel : m < c.requests + 0 := by
      rw [requests_int hm]
      omega
    obtain ⟨before, last, h⟩ :=
      exists_draws_readOn (b := ⟨c.requests, [], 0⟩) hm hfuel (Nat.zero_le m)
    refine ⟨before, last, h.brings, h.goesOn, ?_, h.within, h.ended, h.parked⟩
    exact congrArg ([.stage c.socket.id .reading, .socket c.socket.id (.receive c.bufferSize)] ++ ·) h.events
  | succ gates ih =>
    obtain ⟨before, last, h⟩ := ih
    exact h.onward hm

/-- Reading a line makes at most one request more than the limit has bytes, each for as many bytes as the
connection asks for, and takes at most so many bytes more than the limit. It goes on only behind bytes without
a line feed, so that no request follows a line feed, the end or a fault, and stops for no other reason, but
that the bytes are too many; so reading from a peer that answers always ends. All of this holds of a reading
that waits at gates, too, however many. -/
theorem readLine_bounded (c : Connection σ) {n m : Nat} (hbuffer : c.bufferSize = .int n)
    (hlimit : c.maxLineBytes = .int m)
    (hpeer : Peer.Always (fun d => d.size ≤ n) c.socket.peer c.bufferSize) (gates : Nat) :
    let r := c.readThrough gates
    (∃ (before : List Delivery) (last : Delivery) (requests : Nat),
      Peer.Brings (.int n) c.socket.peer (before ++ [last]) r.peer ∧
      requests = before.countP Delivery.isAnswer + 1 ∧
      r.events = .stage c.socket.id .reading ::
        List.replicate requests (.socket c.socket.id (.receive (.int n))) ∧
      requests ≤ m + 1 ∧ Delivery.volume (before ++ [last]) ≤ m + n ∧
      (∀ d ∈ before, d.GoesOn) ∧
      (last.GoesOn → last.isAnswer = true → m < Delivery.volume (before ++ [last])) ∧
      ((∃ read, r.stop = .done read) ∨
        last.isAnswer = false ∧ before.countP (!·.isAnswer) = gates)) ∧
    (Peer.Always Peer.Answered c.socket.peer c.bufferSize → ∃ read, c.readLine.stop = .done read) := by
  intro r
  obtain ⟨before, last, h⟩ := exists_draws_readThrough hlimit gates
  have hwithin := h.within
  have hrequests := Delivery.countP_isAnswer_le h.goesOn
  have hlast : last.size ≤ n := h.brings.forall_mem hpeer last (by simp)
  have hstop : (∃ read, r.stop = .done read) ∨
      last.isAnswer = false ∧ before.countP (!·.isAnswer) = gates := by
    cases hr : r.stop with
    | done read => exact .inl ⟨read, rfl⟩
    | parked gate b =>
      obtain ⟨rfl, hgates, -⟩ := h.parked gate b hr
      exact .inr ⟨rfl, hgates⟩
  have hvolume : Delivery.volume (before ++ [last]) = Delivery.volume before + last.size := by simp
  have hended := h.ended
  rw [Nat.zero_add] at hended
  refine ⟨⟨before, last, _, ?_, rfl, ?_, by omega, by omega, h.goesOn, hended, hstop⟩, c.readLine_done⟩
  · rw [← hbuffer]
    exact h.brings
  · rw [← hbuffer]
    exact h.events

/-- As many requests and as many bytes as can be, with a gate among them. -/
theorem readLine_bounded_gate :
    let c : Connection Script :=
      { socket := { id := 0, peer := { arrivals :=
          [.bytes [104], .bytes [105], .blocked "g", .bytes [106], .bytes [107, 108, 109]] } }
        address := default, bufferSize := .int 2, maxLineBytes := .int 3, channel := "", id := .null
        createdAt := .null }
    let r := c.readThrough 1
    Peer.Always (fun d => d.size ≤ 2) c.socket.peer c.bufferSize ∧
    r.events = .stage 0 .reading :: List.replicate 4 (.socket 0 (.receive (.int 2))) ∧
    ∃ before last, Peer.Brings (.int 2) c.socket.peer (before ++ [last]) r.peer ∧
      before.countP Delivery.isAnswer + 1 ≤ 4 ∧ Delivery.volume (before ++ [last]) ≤ 5 := by
  intro c r
  have hpeer : Peer.Always (fun d => d.size ≤ 2) c.socket.peer c.bufferSize :=
    fun k => Script.size_receive _ 2
  obtain ⟨⟨before, last, requests, hbrings, rfl, -, hrequests, hvolume, -⟩, -⟩ :=
    readLine_bounded c (n := 2) (m := 3) rfl rfl hpeer 1
  exact ⟨hpeer, rfl, before, last, hbrings, hrequests, hvolume⟩

end Connection

end LineTagger
