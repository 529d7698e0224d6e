import LineTagger.Session
import Mathlib.Tactic.SplitIfs

/-!
The courses that a session can take, one for each way in which a step can end. What holds of every
session is proved by cases over them.
-/

namespace LineTagger

open Connection

variable {σ : Type}

/-- A fault that reading a line may end with and that the session tells of. -/
def Fault.isUnread (f : Fault) : Bool :=
  f.isUndecodable || f.isLineTooLong || f.isTimeout || f.isSystem

def Fault.isUnwritten (f : Fault) : Bool := f.isUnencodable || f.isSystem

namespace Session

/-- What a session shows until the classifier has answered. -/
def asking (c : Connection σ) (s : Service) (line : List Char) : List Event := [
  .log s.channel .debug (c.tag ++ "Receiving: \"" ++ String.ofList line ++ "\"") none,
  .stage c.socket.id .classifying,
  .classify s.classifier.kind line s.outputFormat s.preserveSpacing]

def answering (c : Connection σ) (s : Service) (v : Value) : List Event := [
  .log s.channel .debug (c.tag ++ "Sending: \"" ++ v.display ++ "\"") none,
  .stage c.socket.id .writing]

/-- What a session does with what reading came to, up to closing. -/
inductive Course (c : Connection σ) (s : Service) :
    Except Fault (Option (List Char)) → Run Outcome → Prop where
  | unread {f : Fault} {level : Level} {m : String} {cause : Option Fault} (h : f.isUnread = true)
      (hlevel : level = .warning ∨ level = .error) :
      Course c s (.error f) ⟨[.log s.channel level m cause], .ok .readError⟩
  | unreadable {f : Fault} (h : f.isUnread = false) : Course c s (.error f) ⟨[], .error f⟩
  | noInput {read : Option (List Char)} {m : String} (h : read.getD [] = []) :
      Course c s (.ok read) ⟨[.log s.channel .debug m none], .ok .noInput⟩
  | unclassified {line : List Char} {f : Fault} {m : String} (hline : line ≠ [])
      (h : s.classifier.annotate line s.outputFormat s.preserveSpacing = .error f) :
      Course c s (.ok (some line))
        ⟨asking c s line ++ [.log s.channel .error m (some f)], .ok .classifyError⟩
  | unencoded {line : List Char} {v : Value} {f : Fault} {m : String} (hline : line ≠ [])
      (h : s.classifier.annotate line s.outputFormat s.preserveSpacing = .ok v)
      (hbytes : encodeLine c.charset v = .error f) (hf : f.isUnwritten = true) :
      Course c s (.ok (some line))
        ⟨asking c s line ++ answering c s v ++ [.log s.channel .error m none], .ok .writeError⟩
  | unencodable {line : List Char} {v : Value} {f : Fault} (hline : line ≠ [])
      (h : s.classifier.annotate line s.outputFormat s.preserveSpacing = .ok v)
      (hbytes : encodeLine c.charset v = .error f) (hf : f.isUnwritten = false) :
      Course c s (.ok (some line)) ⟨asking c s line ++ answering c s v, .error f⟩
  | unsent {line : List Char} {v : Value} {bs : Bytes} {f : Fault} {m : String} (hline : line ≠ [])
      (h : s.classifier.annotate line s.outputFormat s.preserveSpacing = .ok v)
      (hbytes : encodeLine c.charset v = .ok bs) (hsend : c.socket.sendFault = some f)
      (hf : f.isUnwritten = true) :
      Course c s (.ok (some line))
        ⟨asking c s line ++ answering c s v ++
          [.socket c.socket.id (.send bs), .log s.channel .error m none], .ok .writeError⟩
  | unsendable {line : List Char} {v : Value} {bs : Bytes} {f : Fault} (hline : line ≠ [])
      (h : s.classifier.annotate line s.outputFormat s.preserveSpacing = .ok v)
      (hbytes : encodeLine c.charset v = .ok bs) (hsend : c.socket.sendFault = some f)
      (hf : f.isUnwritten = false) :
      Course c s (.ok (some line))
        ⟨asking c s line ++ answering c s v ++ [.socket c.socket.id (.send bs)], .error f⟩
  | responded {line : List Char} {v : Value} {bs : Bytes} (hline : line ≠ [])
      (h : s.classifier.annotate line s.outputFormat s.preserveSpacing = .ok v)
      (hbytes : encodeLine c.charset v = .ok bs) (hsend : c.socket.sendFault = none) :
      Course c s (.ok (some line))
        ⟨asking c s line ++ answering c s v ++ [.socket c.socket.id (.send bs)], .ok .responded⟩

variable (c : Connection σ) (s : Service)

theorem course_readFailed (f : Fault) : Course c s (.error f) (readFailed c s f) := by
  unfold readFailed
  split_ifs with hdecode hlong htimeout hsystem
  · exact .unread (by simp [Fault.isUnread, hdecode]) (.inr rfl)
  · exact .unread (by simp [Fault.isUnread, hlong]) (.inr rfl)
  · exact .unread (by simp [Fault.isUnread, htimeout]) (.inl rfl)
  · exact .unread (by simp [Fault.isUnread, hsystem]) (.inr rfl)
  · exact .unreadable (by simp [Fault.isUnread, hdecode, hlong, htimeout, hsystem])

/-- A write that failed is told of in one line of the log, or its fault escapes. -/
theorem writeFailed_cases (f : Fault) :
    (f.isUnwritten = true ∧ ∃ m, writeFailed c s f =
      ⟨[.log s.channel .error m none], .ok .writeError⟩) ∨
    (f.isUnwritten = false ∧ writeFailed c s f = ⟨[], .error f⟩) := by
  unfold writeFailed
  split_ifs with hencode hsystem
  · exact .inl ⟨by simp [Fault.isUnwritten, hencode], _, rfl⟩
  · exact .inl ⟨by simp [Fault.isUnwritten, hsystem], _, rfl⟩
  · exact .inr ⟨by simp [Fault.isUnwritten, hencode, hsystem], rfl⟩

theorem sendLine_of_error {v : Value} {f : Fault} (h : encodeLine c.charset v = .error f) :
    c.sendLine v = ⟨[.stage c.socket.id .writing], .error f⟩ := by
  rw [sendLine, Run.emit_bind, h, Run.ofExcept_error_bind]
  rfl

theorem sendLine_of_ok {v : Value} {bs : Bytes} (h : encodeLine c.charset v = .ok bs) :
    c.sendLine v = ⟨[.stage c.socket.id .writing, .socket c.socket.id (.send bs)],
      (Run.guardFault c.socket.sendFault).result⟩ := by
  rw [sendLine, Run.emit_bind, h, Run.ofExcept_ok_bind, Socket.send, Socket.act, Run.emit_bind]
  cases c.socket.sendFault <;> rfl

theorem course_serveLine {line : List Char} (hline : line ≠ []) :
    Course c s (.ok (some line)) (serveLine c s line) := by
  unfold serveLine
  simp only [Run.log, Run.logFault, Run.emit_bind]
  cases h : s.classifier.annotate line s.outputFormat s.preserveSpacing with
  | error f => exact .unclassified hline h
  | ok v =>
    simp only [respond, Run.log, Run.emit_bind, Run.attempt_bind]
    cases hbytes : encodeLine c.charset v with
    | error f =>
      rw [sendLine_of_error c hbytes]
      obtain ⟨hf, m, hw⟩ | ⟨hf, hw⟩ := writeFailed_cases c s f
      · simp only [hw]
        exact .unencoded hline h hbytes hf
      · simp only [hw]
        exact .unencodable hline h hbytes hf
    | ok bs =>
      rw [sendLine_of_ok c hbytes]
      cases hsend : c.socket.sendFault with
      | none => exact .responded hline h hbytes hsend
      | some f =>
        obtain ⟨hf, m, hw⟩ | ⟨hf, hw⟩ := writeFailed_cases c s f
        · simp only [Run.guardFault, Run.fail, hw]
          exact .unsent hline h hbytes hsend hf
        · simp only [Run.guardFault, Run.fail, hw]
          exact .unsendable hline h hbytes hsend hf

/-- Whatever reading came to, the session takes one of its courses. -/
theorem course_serve (read : Except Fault (Option (List Char))) : Course c s read (serve c s read) := by
  unfold serve
  split
  · exact course_readFailed c s _
  · exact .noInput rfl
  · exact .noInput rfl
  · next line hline => exact course_serveLine c s (by simpa using hline)

end Session

end LineTagger
