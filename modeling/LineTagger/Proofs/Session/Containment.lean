import LineTagger.Proofs.Charset.Refusal
import LineTagger.Proofs.Charset.Spelled
import LineTagger.Proofs.RequestLine
import LineTagger.Proofs.Session.Discipline
import LineTagger.Proofs.Validated

/-!
What a session lets escape. With validated settings, over a socket that fails in the ways of the
operating system only, a session ends with an outcome unless its charset fails on the request or on the
answer in a way that is not a refusal of some characters.
-/

namespace LineTagger

open Connection

variable {σ : Type}

/-- A request for bytes brings bytes or a failure of the operating system. -/
def Peer.Calm : Delivery → Prop
  | .bytes _ => True
  | .fault f => f.isSystem = true
  | .waits _ => False

theorem Peer.Calm.answered {d : Delivery} (h : Peer.Calm d) : Peer.Answered d := by
  intro gate hd
  rw [hd] at h
  exact h

namespace Connection

variable [Peer σ] {c : Connection σ}

/-- A peer that brings bytes or failures of the operating system lets a line be gathered, or gathering
fails in a way that a session tells of. -/
theorem gatherLine_calm (hpeer : Peer.Always Peer.Calm c.socket.peer c.bufferSize) {q : Quantity}
    (hlimit : c.maxLineBytes.quantity? = some q) :
    ∃ gathered, c.gatherLine.stop = .done gathered ∧
      ∀ f, gathered = .error f → f.isUnread = true := by
  have hanswered : Peer.Always Peer.Answered c.socket.peer c.bufferSize :=
    fun k => (hpeer k).answered
  obtain ⟨gathered, hgathered⟩ := c.gatherLine_done hanswered
  refine ⟨gathered, hgathered, ?_⟩
  intro f hf
  rw [hf] at hgathered
  obtain ⟨k, hk⟩ | hlong | ⟨n, hn⟩ := gatherFrom_error hgathered
  · have hcalm := hpeer k
    rw [hk] at hcalm
    have hsystem : f.isSystem = true := hcalm
    simp [Fault.isUnread, hsystem]
  · simp [Fault.isUnread, hlong]
  · simp [Limit.exceeds, hlimit] at hn

end Connection

/-- What a charset fails with for its own sake is not told of in a session. -/
theorem Charset.Unfit.escapes {f : Fault} (h : Charset.Unfit f) :
    f.isUnread = false ∧ f.isUndecodable = false ∧ f.isUnwritten = false ∧ f.isUnencodable = false := by
  cases h <;> exact ⟨rfl, rfl, rfl, rfl⟩

/-- Of what decoding fails with, a session tells of the refusals of bytes alone. -/
theorem isUnread_of_decodeBy {charset : Value} {bs : Bytes} {f : Fault}
    (h : Charset.decodeBy charset bs = .error f) : f.isUnread = f.isUndecodable := by
  obtain hf | hf := Charset.decodeBy_error h
  · rw [Fault.isUnread, hf]
    rfl
  · rw [hf.escapes.1, hf.escapes.2.1]

theorem isUnwritten_of_encodeLine {charset v : Value} {f : Fault}
    (h : encodeLine charset v = .error f) : f.isUnwritten = f.isUnencodable := by
  have herror : f.isUnencodable = true ∨ Charset.Unfit f := by
    unfold encodeLine at h
    split at h
    · next f' htext =>
      cases h
      unfold lineText at htext
      split at htext
      · cases htext
        exact .inr (.notName _)
      · split at htext
        · cases htext
          exact .inr (.notName _)
        · cases htext
    · exact Charset.encodeBy_error h
  obtain hf | hf := herror
  · rw [Fault.isUnwritten, hf]
    rfl
  · rw [hf.escapes.2.2.1, hf.escapes.2.2.2]

namespace Session

variable {c : Connection σ} {s : Service} {read : Except Fault (Option (List Char))}
  {r : Run Outcome} {f : Fault}

/-- A course lets a fault escape that reading failed with or encoding the answer, where no handler is
for it. -/
theorem Course.error_iff (h : Course c s read r) (hsend : ∀ f ∈ c.socket.sendFault, f.isSystem = true) :
    r.result = .error f ↔
      (read = .error f ∧ f.isUnread = false) ∨
      ∃ line v, read = .ok (some line) ∧ line ≠ [] ∧
        s.classifier.annotate line s.outputFormat s.preserveSpacing = .ok v ∧
        encodeLine c.charset v = .error f ∧ f.isUnwritten = false := by
  constructor
  · intro hr
    cases h with
    | unreadable h =>
      cases hr
      exact .inl ⟨rfl, h⟩
    | unencodable hline h hbytes hf =>
      cases hr
      exact .inr ⟨_, _, rfl, hline, h, hbytes, hf⟩
    | unsendable _ _ _ hfault hf =>
      have hsystem := hsend _ hfault
      simp [Fault.isUnwritten, hsystem] at hf
    | unread | noInput | unclassified | unencoded | unsent | responded => cases hr
  · rintro (⟨hread, hf⟩ | ⟨line, v, hread, hline, hv, hbytes, hf⟩)
    · cases h with
      | unread h =>
        cases hread
        rw [h] at hf
        cases hf
      | unreadable => exact congrArg Except.error (Except.error.inj hread)
      | _ => cases hread
    · cases h with
      | unread | unreadable => cases hread
      | noInput h =>
        cases hread
        exact absurd h hline
      | unclassified _ h =>
        cases hread
        rw [h] at hv
        cases hv
      | unencoded _ h hbytes' hf' =>
        cases hread
        obtain rfl := Except.ok.inj (h.symm.trans hv)
        rw [Except.error.inj (hbytes'.symm.trans hbytes), hf] at hf'
        cases hf'
      | unencodable _ h hbytes' =>
        cases hread
        obtain rfl := Except.ok.inj (h.symm.trans hv)
        exact congrArg Except.error (Except.error.inj (hbytes'.symm.trans hbytes))
      | unsent _ h hbytes' | unsendable _ h hbytes' | responded _ h hbytes' =>
        cases hread
        obtain rfl := Except.ok.inj (h.symm.trans hv)
        rw [hbytes'] at hbytes
        cases hbytes

/-- Decoding the request or encoding the answer fails, and not for bytes or characters that the charset
refuses. -/
inductive Escapes [Peer σ] (c : Connection σ) (s : Service) (f : Fault) : Prop where
  | request {line : Bytes} (h : c.gatherLine.stop = .done (.ok (some line)))
      (hdecode : Charset.decodeBy c.charset line = .error f) (hf : f.isUndecodable = false)
  | answer {line : List Char} {v : Value} (h : c.readLine.stop = .done (.ok (some line)))
      (hline : line ≠ [])
      (hv : s.classifier.annotate line s.outputFormat s.preserveSpacing = .ok v)
      (hencode : encodeLine c.charset v = .error f) (hf : f.isUnencodable = false)

theorem Course.escapes_iff [Peer σ] {gathered : Except Fault (Option Bytes)}
    (hgather : c.gatherLine.stop = .done gathered) (hunread : ∀ f, gathered = .error f → f.isUnread = true)
    (hsend : ∀ f ∈ c.socket.sendFault, f.isSystem = true)
    (h : Course (c.afterReading c.readLine) s (decodeLine c.charset gathered) r) :
    r.result = .error f ↔ Escapes c s f := by
  have hread := stop_readLine_of_gatherLine hgather
  rw [h.error_iff hsend]
  constructor
  · rintro (⟨hfault, hf⟩ | ⟨line, v, hline, hne, hv, hencode, hf⟩)
    · obtain hgathered | ⟨line, hgathered, hdecode⟩ := decodeLine_eq_error_iff.1 hfault
      · rw [hunread f hgathered] at hf
        cases hf
      · rw [isUnread_of_decodeBy hdecode] at hf
        exact .request (hgathered ▸ hgather) hdecode hf
    · rw [hline] at hread
      have hencode' : encodeLine c.charset v = .error f := hencode
      rw [isUnwritten_of_encodeLine hencode'] at hf
      exact .answer hread hne hv hencode' hf
  · intro h
    cases h with
    | @request line hline hdecode hf =>
      have hgathered : gathered = .ok (some line) := LineStop.done.inj (hgather.symm.trans hline)
      rw [← isUnread_of_decodeBy hdecode] at hf
      exact .inl ⟨decodeLine_eq_error_iff.2 (.inr ⟨line, hgathered, hdecode⟩), hf⟩
    | answer hline hne hv hencode hf =>
      rw [← isUnwritten_of_encodeLine hencode] at hf
      exact .inr ⟨_, _, LineStop.done.inj (hread.symm.trans hline), hne, hv, hencode, hf⟩

section

variable {charset : Value} {name : String} (hname : charset.text? = some name)
  (hfault : Charset.nameFault? name = none)

include hname hfault

theorem decodeBy_nil : Charset.decodeBy charset [] = .ok [] := by
  rw [Charset.decodeBy_of_text? hname]
  simp only [Charset.decode, hfault]
  rfl

theorem decodeBy_of_refusing (hfind : Charset.find? name = some .refusing) {line : Bytes}
    (hline : line ≠ []) : Charset.decodeBy charset line = .error (.undefinedCodec name true) := by
  rw [Charset.decodeBy_of_text? hname]
  simp only [Charset.decode, hfault, hfind, Charset.decodeWith]
  rw [if_neg (by simpa using hline)]

end

section

variable [Peer σ] {name : String} {codec : Codec} (hname : c.charset.text? = some name)
  (hfault : Charset.nameFault? name = none)

include hname hfault

/-- Under a charset that converts text nothing escapes, where the classifier answers with texts. -/
theorem not_escapes_of_convertsText (hfind : Charset.find? name = some codec)
    (hcodec : codec.convertsText = true)
    (hclassifier : ∀ line format preserve v, s.classifier.annotate line format preserve = .ok v →
      ∃ t, v = .text t) : ¬Escapes c s f := by
  intro h
  cases h with
  | request _ hdecode hf =>
    rw [Charset.decodeBy_of_text? hname] at hdecode
    rw [Charset.isUndecodable_of_decode hfault hfind hcodec hdecode] at hf
    cases hf
  | answer _ _ hv hencode hf =>
    obtain ⟨t, rfl⟩ := hclassifier _ _ _ _ hv
    simp only [encodeLine, lineText, Value.text?] at hencode
    rw [Charset.encodeBy_of_text? hname] at hencode
    rw [Charset.isUnencodable_of_encode hfault hfind hcodec hencode] at hf
    cases hf

/-- Under the charset that refuses every text a request escapes that is not empty. -/
theorem escapes_iff_of_refusing (hfind : Charset.find? name = some .refusing) :
    (∃ f, Escapes c s f) ↔ ∃ line, line ≠ [] ∧ c.gatherLine.stop = .done (.ok (some line)) := by
  have hempty := decodeBy_nil hname hfault
  constructor
  · rintro ⟨f, @⟨line, hgather, hdecode, -⟩ | ⟨hread, hline, -, -, -⟩⟩
    · refine ⟨line, ?_, hgather⟩
      rintro rfl
      rw [hempty] at hdecode
      cases hdecode
    · obtain ⟨line, hgather, hdecode⟩ := gatherLine_of_readLine hread
      refine ⟨line, ?_, hgather⟩
      rintro rfl
      exact hline (Except.ok.inj (hdecode.symm.trans hempty))
  · rintro ⟨line, hline, hgather⟩
    exact ⟨_, .request hgather (decodeBy_of_refusing hname hfault hfind hline) rfl⟩

end

section

variable [Peer σ] (settings : Settings) (classifier : Classifier) (channel : String) (id : Value)
  (now : Double) (socket : Socket σ) (address : Address)

/-- What a session lets escape, with validated settings. -/
theorem result_handle (hvalid : settings.validate = .ok ())
    (hpeer : Peer.Always Peer.Calm socket.peer settings.bufferSize)
    (htimeout : ∀ f ∈ socket.timeoutFault, f.isSystem = true)
    (hsend : ∀ f ∈ socket.sendFault, f.isSystem = true)
    (hshutdown : ∀ f ∈ socket.shutdownFault, f.isSystem = true)
    (hclose : ∀ f ∈ socket.closeFault, f.isSystem = true) :
    ∃ result,
      (handle settings classifier channel id now socket address).stop = .ended result ∧
      ∀ f, result = .error f ↔ socket.timeoutFault = none ∧
        Escapes (connectionOf settings socket address channel id now)
          (serviceOf settings classifier channel now) f := by
  cases hfault : socket.timeoutFault with
  | some g =>
    rw [handle_of_timeoutFault hfault (htimeout g hfault) hclose]
    refine ⟨_, rfl, fun f => ⟨fun h => ?_, fun h => ?_⟩⟩
    · cases h
    · cases h.1
  | none =>
    obtain ⟨c, hc⟩ : ∃ c, c = connectionOf settings socket address channel id now := ⟨_, rfl⟩
    obtain ⟨q, hq⟩ := Settings.quantity?_of_checkCount
      ((settings.validate_eq_ok_iff).1 hvalid).maxLineBytes
    obtain ⟨gathered, hgather, hunread⟩ := gatherLine_calm (c := c) (by rw [hc]; exact hpeer)
      (by rw [hc]; exact hq)
    have hread := stop_readLine_of_gatherLine hgather
    obtain ⟨r, hcourse, hhandle⟩ := handle_course hfault hc rfl hread hshutdown hclose
    rw [hhandle, ← hc]
    refine ⟨_, rfl, fun f => ?_⟩
    rw [hcourse.escapes_iff hgather hunread (by rw [hc]; exact hsend)]
    simp

end

end Session

end LineTagger
