import LineTagger.Connection

/-!
Streams of bytes as a peer delivers them: which bytes come, whatever the pieces, and how the stream
ends.
-/

namespace LineTagger

/-- How a stream of bytes ends: the peer sends no more, or asking for more fails. -/
inductive StreamEnd where
  | closed
  | fault (f : Fault)
  deriving Repr, Inhabited

/-- A peer that is asked for `n` bytes again and again brings these bytes in pieces, and then the
stream ends. -/
inductive Delivers {σ : Type} [Peer σ] (n : Value) : σ → Bytes → StreamEnd → Prop where
  | closed {s t : σ} (h : Peer.receive s n = (.bytes [], t)) : Delivers n s [] .closed
  | fault {s t : σ} {f : Fault} (h : Peer.receive s n = (.fault f, t)) : Delivers n s [] (.fault f)
  | piece {s t : σ} {chunk stream : Bytes} {e : StreamEnd}
      (h : Peer.receive s n = (.bytes chunk, t)) (hchunk : chunk ≠ [])
      (rest : Delivers n t stream e) : Delivers n s (chunk ++ stream) e

/-- A peer brings one stream only. -/
theorem Delivers.unique {σ : Type} [Peer σ] {n : Value} {s : σ} {stream stream' : Bytes}
    {e e' : StreamEnd} (h : Delivers n s stream e) (h' : Delivers n s stream' e') :
    stream = stream' ∧ e = e' := by
  induction h generalizing stream' with
  | closed h =>
    cases h' with
    | closed => exact ⟨rfl, rfl⟩
    | fault h' => cases h.symm.trans h'
    | piece h' hchunk =>
      cases h.symm.trans h'
      exact absurd rfl hchunk
  | fault h =>
    cases h' with
    | closed h' => cases h.symm.trans h'
    | fault h' =>
      cases h.symm.trans h'
      exact ⟨rfl, rfl⟩
    | piece h' => cases h.symm.trans h'
  | piece h hchunk _ ih =>
    cases h' with
    | closed h' =>
      cases h.symm.trans h'
      exact absurd rfl hchunk
    | fault h' => cases h.symm.trans h'
    | piece h' _ hrest =>
      cases h.symm.trans h'
      obtain ⟨rfl, rfl⟩ := ih hrest
      exact ⟨rfl, rfl⟩

namespace Peer

variable {σ : Type} [Peer σ]

/-- A peer that was asked for `n` bytes some times. -/
def after (n : Value) : Nat → σ → σ
  | 0, s => s
  | k + 1, s => after n k (receive s n).2

/-- Whatever comes of asking a peer for `n` bytes again and again has a property. -/
def Always (p : Delivery → Prop) (s : σ) (n : Value) : Prop :=
  ∀ k, p (receive (after n k s) n).1

theorem Always.head {p : Delivery → Prop} {s : σ} {n : Value} (h : Always p s n) :
    p (receive s n).1 := h 0

theorem Always.tail {p : Delivery → Prop} {s : σ} {n : Value} (h : Always p s n) :
    Always p (receive s n).2 n := fun k => h (k + 1)

/-- What comes is bytes or a fault: no request waits at a gate. -/
def Answered (d : Delivery) : Prop := ∀ gate, d ≠ .waits gate

end Peer

namespace Script

/-- A request leaves the faults and gates of a script as they are, or takes the first item away. -/
theorem mem_receive {s : Script} {n : Value} {a : Arrival} (ha : ∀ bs, a ≠ .bytes bs)
    (h : a ∈ (s.receive n).2.arrivals) : a ∈ s.arrivals := by
  unfold receive at h
  split at h
  · exact h
  · split at h
    · exact h
    · next hs =>
      rw [hs]
      split at h
      · exact List.mem_cons_of_mem _ h
      · dsimp only at h
        split at h
        · exact List.mem_cons_of_mem _ h
        · exact List.mem_cons_of_mem _ ((List.mem_cons.1 h).resolve_left (ha _))
    all_goals
      next hs =>
        rw [hs]
        exact List.mem_cons_of_mem _ h

theorem fault_receive (s : Script) (n : Value) : (s.receive n).2.fault = s.fault := by
  unfold receive
  split
  · rfl
  · split
    · rfl
    · split <;> rfl
    all_goals rfl

/-- What a script brings has a property that all bytes have and the faults and gates it holds. -/
theorem always {p : Delivery → Prop} (hbytes : ∀ bs, p (.bytes bs)) {s : Script}
    (hfault : ∀ f ∈ s.fault, p (.fault f)) (hfaults : ∀ f, .fault f ∈ s.arrivals → p (.fault f))
    (hgates : ∀ gate, .blocked gate ∈ s.arrivals → p (.waits gate)) (n : Int) :
    Peer.Always p s (.int n) := by
  intro k
  induction k generalizing s with
  | zero =>
    show p (s.receive (.int n)).1
    unfold receive
    split
    · next f hf => exact hfault f hf
    · split
      · exact hbytes []
      · exact hbytes _
      · next f _ hs => exact hfaults f (hs ▸ List.mem_cons_self)
      · exact hbytes []
      · next gate _ hs => exact hgates gate (hs ▸ List.mem_cons_self)
  | succ k ih =>
    have hnext := fault_receive s (.int n)
    exact ih (s := (s.receive (.int n)).2) (by rw [hnext]; exact hfault)
      (fun f hf => hfaults f (mem_receive (by simp) hf))
      (fun gate hgate => hgates gate (mem_receive (by simp) hgate))

def arrivalOf : StreamEnd → Arrival
  | .closed => .endOfStream
  | .fault f => .fault f

/-- A script of these pieces, then the end of the stream, then what nobody asks for. -/
def ofPieces (pieces : List Bytes) (e : StreamEnd) (rest : List Arrival) : Script where
  arrivals := pieces.map .bytes ++ arrivalOf e :: rest

theorem receive_piece (piece : Bytes) (rest : List Arrival) (n : Nat) :
    receive { arrivals := .bytes piece :: rest } (.int n) =
      (.bytes (piece.take n),
        { arrivals := if (piece.drop n).isEmpty then rest else .bytes (piece.drop n) :: rest }) := rfl

/-- A piece that a peer cuts into smaller ones comes whole. -/
theorem delivers_piece {piece : Bytes} {rest : List Arrival} {n : Nat} {stream : Bytes}
    {e : StreamEnd} (hn : 0 < n) (hpiece : piece ≠ [])
    (hrest : Delivers (.int n) ({ arrivals := rest } : Script) stream e) :
    Delivers (.int n) ({ arrivals := .bytes piece :: rest } : Script) (piece ++ stream) e := by
  induction hl : piece.length using Nat.strongRecOn generalizing piece with
  | _ l ih =>
    have hpos : 0 < piece.length := List.length_pos_iff.2 hpiece
    have htake : piece.take n ≠ [] := by
      simp only [ne_eq, List.take_eq_nil_iff, not_or]
      exact ⟨by omega, hpiece⟩
    have hreceive := receive_piece piece rest n
    rw [← List.take_append_drop n piece, List.append_assoc, List.take_append_drop]
    by_cases hdrop : piece.drop n = []
    · rw [hdrop] at hreceive ⊢
      exact .piece hreceive htake hrest
    · rw [if_neg (by simpa using hdrop)] at hreceive
      have hless : (piece.drop n).length < l := by
        rw [List.length_drop]
        omega
      exact .piece hreceive htake (ih _ hless hdrop rfl)

theorem delivers_append {pieces : List Bytes} (hpieces : ∀ piece ∈ pieces, piece ≠ []) {n : Nat}
    (hn : 0 < n) {rest : List Arrival} {stream : Bytes} {e : StreamEnd}
    (hrest : Delivers (.int n) ({ arrivals := rest } : Script) stream e) :
    Delivers (.int n) ({ arrivals := pieces.map .bytes ++ rest } : Script) (pieces.flatten ++ stream)
      e := by
  induction pieces with
  | nil => exact hrest
  | cons piece pieces ih =>
    have htail := ih fun p hp => hpieces p (List.mem_cons_of_mem _ hp)
    rw [List.flatten_cons, List.append_assoc]
    exact delivers_piece hn (hpieces piece List.mem_cons_self) htail

/-- However a stream is cut into pieces, and whatever the number of bytes that is asked for, its bytes
come in their order. -/
theorem delivers_ofPieces (pieces : List Bytes) (hpieces : ∀ piece ∈ pieces, piece ≠ [])
    (e : StreamEnd) (rest : List Arrival) {n : Nat} (hn : 0 < n) :
    Delivers (.int n) (ofPieces pieces e rest) pieces.flatten e := by
  have hend : Delivers (.int n) ({ arrivals := arrivalOf e :: rest } : Script) [] e := by
    cases e with
    | closed => exact .closed rfl
    | fault f => exact .fault rfl
  have h := delivers_append hpieces hn hend
  rwa [List.append_nil] at h

theorem delivers_pieces (pieces : List Bytes) (hpieces : ∀ piece ∈ pieces, piece ≠ []) {n : Nat}
    (hn : 0 < n) :
    Delivers (.int n) ({ arrivals := pieces.map .bytes } : Script) pieces.flatten .closed := by
  have hend : Delivers (.int n) ({ arrivals := [] } : Script) [] .closed := .closed rfl
  have h := delivers_append hpieces hn hend
  rwa [List.append_nil, List.append_nil] at h

end Script

/-- A way to cut bytes into pieces that loses none of them. -/
def Cuts (pieces : Bytes → List Bytes) : Prop :=
  ∀ bs, bs ≠ [] → (pieces bs).flatten = bs ∧ ∀ piece ∈ pieces bs, piece ≠ []

theorem Cuts.delivers {pieces : Bytes → List Bytes} (h : Cuts pieces) {bs : Bytes} (hbs : bs ≠ [])
    {n : Nat} (hn : 0 < n) :
    Delivers (.int n) ({ arrivals := (pieces bs).map .bytes } : Script) bs .closed := by
  obtain ⟨hflatten, hpieces⟩ := h bs hbs
  have hdelivers := Script.delivers_pieces (pieces bs) hpieces hn
  rwa [hflatten] at hdelivers

end LineTagger
