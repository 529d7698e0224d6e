import LineTagger.Event
import LineTagger.Text.Slice

/-!
Sockets as the program meets them: a peer that delivers bytes when it is asked, and operations that
may fail.
-/

namespace LineTagger

/-- What comes of asking a peer for bytes. No bytes at all mean that the peer will send no more. -/
inductive Delivery where
  | bytes (bs : Bytes)
  | fault (f : Fault)
  /-- nothing comes until the gate opens -/
  | waits (gate : String)
  deriving Repr, Inhabited

/-- A peer in some state, which can be asked for at most so many bytes. -/
class Peer (σ : Type) where
  receive : σ → Value → Delivery × σ
  /-- how often it may be asked at most where nothing else limits that -/
  patience : σ → Nat

/-- Something that happens on a scripted peer's side. -/
inductive Arrival where
  | bytes (bs : Bytes)
  | fault (f : Fault)
  | endOfStream
  | blocked (gate : String)
  deriving Repr, Inhabited

/-- A peer that follows a script. Behind the script it has no more to send. -/
structure Script where
  arrivals : List Arrival := []
  /-- what every request for bytes fails with -/
  fault : Option Fault := none
  deriving Repr, Inhabited

namespace Script

/-- Cuts bytes at a position. Where the position is null, all of them are on both sides. -/
def cut (bs : Bytes) : Value → Option (Bytes × Bytes)
  | .null => some (bs, bs)
  | .bool b => some (sliceTo bs (if b then 1 else 0), sliceFrom bs (if b then 1 else 0))
  | .int n => some (sliceTo bs n, sliceFrom bs n)
  | _ => none

/-- Delivers the next item; of bytes that are more than `n`, the rest stays in front. -/
def receive (s : Script) (n : Value) : Delivery × Script :=
  match s.fault with
  | some f => (.fault f, s)
  | none =>
    match s.arrivals with
    | [] => (.bytes [], s)
    | .bytes bs :: rest =>
      match cut bs n with
      | none => (.fault (.mismatch .sliceNotWhole), { s with arrivals := rest })
      | some (now, later) => (.bytes now, { s with
        arrivals := if later.isEmpty then rest else .bytes later :: rest })
    | .fault f :: rest => (.fault f, { s with arrivals := rest })
    | .endOfStream :: rest => (.bytes [], { s with arrivals := rest })
    | .blocked gate :: rest => (.waits gate, { s with arrivals := rest })

/-- How much a script holds: its bytes and its items. -/
def weight (s : Script) : Nat :=
  (s.arrivals.map fun a => match a with
    | .bytes bs => bs.length + 1
    | _ => 1).foldr (· + ·) 0

theorem cut_eq_some {bs now later : Bytes} {n : Value} (h : cut bs n = some (now, later))
    (hn : ¬n.isNull) : now ++ later = bs := by
  cases n with
  | null => exact absurd rfl hn
  | bool b =>
    obtain ⟨rfl, rfl⟩ := Prod.mk.inj (Option.some.inj h)
    exact sliceTo_append_sliceFrom bs _
  | int i =>
    obtain ⟨rfl, rfl⟩ := Prod.mk.inj (Option.some.inj h)
    exact sliceTo_append_sliceFrom bs i
  | double _ | text _ | bytes _ | list _ | map _ | format _ => simp [cut] at h

/-- Bytes that a script delivers are gone from it. -/
theorem weight_receive {s t : Script} {n : Value} {bs : Bytes} (h : s.receive n = (.bytes bs, t))
    (hn : ¬n.isNull) (hbs : bs ≠ []) : t.weight < s.weight := by
  unfold receive at h
  split at h
  · simp at h
  · split at h
    · simp_all
    · rename_i chunk rest hs
      split at h
      · simp at h
      · rename_i now later hcut
        obtain ⟨hnow, rfl⟩ := Prod.mk.inj h
        have hlength := congrArg List.length (cut_eq_some hcut hn)
        have hpos := List.length_pos_iff.2 hbs
        rw [← Delivery.bytes.inj hnow] at hpos
        simp only [List.length_append] at hlength
        simp only [weight, hs]
        split
        all_goals
          simp only [List.map_cons, List.foldr_cons]
          omega
    all_goals simp_all

instance : Peer Script := ⟨receive, weight⟩

end Script

/-- A socket: its number, the peer at its other end, and the faults of its operations. -/
structure Socket (σ : Type) where
  id : Nat
  peer : σ
  timeoutFault : Option Fault := none
  sendFault : Option Fault := none
  shutdownFault : Option Fault := none
  closeFault : Option Fault := none
  deriving Repr, Inhabited

namespace Socket

variable {σ : Type}

/-- Shows an operation and fails with its fault, if it has one. -/
def act (s : Socket σ) (op : SocketOp) (f : Option Fault) : Run Unit := do
  Run.emit (.socket s.id op)
  Run.guardFault f

def setTimeout (s : Socket σ) (seconds : Value) : Run Unit :=
  s.act (.setTimeout seconds) s.timeoutFault

/-- Sends all of some bytes. -/
def send (s : Socket σ) (bs : Bytes) : Run Unit := s.act (.send bs) s.sendFault

/-- Ends both directions of the stream. -/
def shutdown (s : Socket σ) : Run Unit := s.act .shutdown s.shutdownFault

def close (s : Socket σ) : Run Unit := s.act .close s.closeFault

end Socket

end LineTagger
