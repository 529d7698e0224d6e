import LineTagger.Settings

/-!
What validated settings have in common.
-/

namespace LineTagger.Settings

/-- Settings each of which passes its check. -/
structure Validated (s : Settings) : Prop where
  port : checkPort s.port = .ok ()
  charset : checkCharset s.charset = .ok ()
  backlog : checkCount "backlog" s.backlog = .ok ()
  bufferSize : checkCount "buffer_size" s.bufferSize = .ok ()
  maxLineBytes : checkCount "max_line_bytes" s.maxLineBytes = .ok ()
  acceptPollInterval : checkPositive "accept_poll_interval" s.acceptPollInterval = .ok ()
  readTimeout : unlessNull s.readTimeout (checkPositive "read_timeout" s.readTimeout) = .ok ()
  maxSessions : unlessNull s.maxSessions (checkCount "max_sessions" s.maxSessions) = .ok ()
  logLevel : checkLogLevel s.logLevel = .ok ()

theorem validate_eq_ok_iff (s : Settings) : s.validate = .ok () ↔ s.Validated := by
  simp only [validate, bind_eq_ok]
  constructor
  · rintro ⟨_, hport, _, hcharset, _, hbacklog, _, hbuffer, _, hmax, _, hpoll, _, htimeout, _,
      hsessions, hlevel⟩
    exact ⟨hport, hcharset, hbacklog, hbuffer, hmax, hpoll, htimeout, hsessions, hlevel⟩
  · intro h
    exact ⟨(), h.port, (), h.charset, (), h.backlog, (), h.bufferSize, (), h.maxLineBytes, (),
      h.acceptPollInterval, (), h.readTimeout, (), h.maxSessions, h.logLevel⟩

theorem quantity?_of_checkCount {name : String} {v : Value} (h : checkCount name v = .ok ()) :
    ∃ q, v.quantity? = some q := by
  cases hv : v.quantity? with
  | none => simp [checkCount, hv] at h
  | some q => exact ⟨q, rfl⟩

/-- What passes for a charset is the name of a codec. -/
theorem checkCharset_eq_ok_iff {v : Value} : checkCharset v = .ok () ↔
    ∃ name codec, v.text? = some name ∧ Charset.nameFault? name = none ∧
      Charset.find? name = some codec := by
  constructor
  · intro h
    unfold checkCharset at h
    obtain ⟨name, hname, h⟩ := bind_eq_ok.1 h
    obtain ⟨known, hknown, h⟩ := bind_eq_ok.1 h
    have htext : v.text? = some name := by
      cases hv : v.text? with
      | none => simp [Charset.nameOf, hv] at hname
      | some name' =>
        simp only [Charset.nameOf, hv] at hname
        rw [Except.ok.inj hname]
    cases hfault : Charset.nameFault? name with
    | some f => simp [Charset.isKnown, hfault] at hknown
    | none =>
      simp only [Charset.isKnown, hfault] at hknown
      cases hfind : Charset.find? name with
      | none =>
        rw [← Except.ok.inj hknown, hfind] at h
        cases h
      | some codec => exact ⟨name, codec, htext, hfault, hfind⟩
  · rintro ⟨name, codec, hname, hfault, hfind⟩
    have hknown : Charset.isKnown name = .ok true := by
      simp only [Charset.isKnown, hfault, hfind, Option.isSome_some]
    simp only [checkCharset, Charset.nameOf, hname]
    show (Charset.isKnown name >>= _) = _
    rw [hknown]
    rfl

theorem validate_of_find? {name : String} {codec : Codec} (hfault : Charset.nameFault? name = none)
    (hfind : Charset.find? name = some codec) :
    ({ port := .int 9191, charset := .text name } : Settings).validate = .ok () := by
  have hcharset : checkCharset (.text name) = .ok () :=
    checkCharset_eq_ok_iff.2 ⟨name, codec, rfl, hfault, hfind⟩
  exact (validate_eq_ok_iff _).2 ⟨rfl, hcharset, rfl, rfl, rfl, rfl, rfl, rfl, rfl⟩

end LineTagger.Settings
