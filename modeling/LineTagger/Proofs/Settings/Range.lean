import LineTagger.Proofs.CommandLine.Given
import LineTagger.Proofs.Settings.Overrides
import LineTagger.Proofs.Validated

/-!
The range of accepted settings. What a command line and the environment make of settings, and what
passes for valid, is in range, except for a time limit that is not a number: no check refuses it.
-/

namespace LineTagger

namespace Double

/-- What is above zero; what is not a number is not. -/
def IsPositive : Double → Prop
  | .nan => False
  | .infinity negative => negative = false
  | .finite negative mantissa _ => negative = false ∧ mantissa ≠ 0

theorem powerOfTwo_pos (n : Nat) : 0 < powerOfTwo n := Nat.pow_pos (by decide)

/-- A finite number is zero or below when it is negative, or zero. -/
theorem leInt_finite_zero (negative : Bool) (m : Nat) (e : Int) :
    (Double.finite negative m e).leInt 0 = (negative || m == 0) := by
  have hpower := powerOfTwo_pos e.toNat
  have hscaled : m * powerOfTwo e.toNat = 0 ↔ m = 0 := by
    rw [Nat.mul_eq_zero]
    omega
  rw [Bool.eq_iff_iff]
  cases negative with
  | true =>
    by_cases he : e < 0
    · simp [leInt, toFraction?, he]
    · simp only [leInt, toFraction?, he, if_true, if_false, Int.zero_mul, decide_eq_true_eq,
        Bool.true_or, iff_true, Int.neg_mul]
      exact Int.neg_nonpos_of_nonneg (Int.mul_nonneg (by omega) (by omega))
  | false =>
    by_cases he : e < 0
    · simp [leInt, toFraction?, he]
    · simp only [leInt, toFraction?, he, if_false, Int.zero_mul, decide_eq_true_eq, Bool.false_or,
        beq_iff_eq, Bool.false_eq_true]
      rw [← hscaled]
      omega

/-- A number that is not found to be zero or below is above zero, or no number at all. -/
theorem leInt_zero_eq_false_iff (x : Double) : x.leInt 0 = false ↔ x = .nan ∨ x.IsPositive := by
  cases x with
  | nan => simp [leInt]
  | infinity negative => simp [leInt, IsPositive]
  | finite negative m e => simp [leInt_finite_zero, IsPositive]

end Double

namespace Settings

/-- A whole number that is at least one. -/
def IsCount (v : Value) : Prop := ∃ n, v = .int n ∧ 1 ≤ n

/-- A number of seconds that is above zero. -/
def IsDuration (v : Value) : Prop := ∃ x, v = .double x ∧ x.IsPositive

/-- Settings whose numbers are in range and whose names are known; the time limit is told apart. -/
structure InRange (s : Settings) : Prop where
  port : ∃ n, s.port = .int n ∧ 1 ≤ n ∧ n ≤ 65535
  charset : ∃ name, s.charset.text? = some name ∧ Charset.isKnown name = .ok true
  backlog : IsCount s.backlog
  bufferSize : IsCount s.bufferSize
  maxLineBytes : IsCount s.maxLineBytes
  acceptPollInterval : IsDuration s.acceptPollInterval
  maxSessions : s.maxSessions = .null ∨ IsCount s.maxSessions
  logLevel : ∃ name, s.logLevel.text? = some name ∧
    String.ofList (upperAscii name.toList) ∈ levelNames

section

variable {kvs : List (String × Value)} {name : String}

/-- Of values under distinct names the one under a name is given, unless it is null. -/
theorem given?_eq_lookup (h : (kvs.map Prod.fst).Nodup) (name : String) :
    given? kvs name = (kvs.lookup name).filter fun v => !v.isNull := by
  induction kvs with
  | nil => rfl
  | cons kv kvs ih =>
    obtain ⟨k, v⟩ := kv
    obtain ⟨hk, hrest⟩ := List.nodup_cons.1 h
    rw [given?, ih hrest, Value.lookup_cons_eq]
    by_cases hname : name = k
    · subst hname
      rw [Value.lookup_eq_none_of_notMem hk]
      cases hv : v.isNull <;> simp [Option.filter_some, hv]
    · simp [hname]

theorem isCount_of_checkCount {n : Int} (h : checkCount name (.int n) = .ok ()) :
    IsCount (.int n) := by
  refine ⟨n, rfl, ?_⟩
  by_cases hlow : n < 1
  · simp [checkCount, Value.quantity?, Quantity.ltInt, hlow] at h
  · omega

theorem positive_of_checkPositive {x : Double} (h : checkPositive name (.double x) = .ok ()) :
    x = .nan ∨ x.IsPositive := by
  rw [← Double.leInt_zero_eq_false_iff]
  cases hx : x.leInt 0 with
  | false => rfl
  | true => simp [checkPositive, Value.quantity?, Quantity.leInt, hx] at h

theorem level_of_checkLogLevel {v : Value} (h : checkLogLevel v = .ok ()) :
    ∃ name, v.text? = some name ∧ String.ofList (upperAscii name.toList) ∈ levelNames := by
  unfold checkLogLevel at h
  split at h
  · cases h
  · split at h
    · cases h
    · next name hname =>
      split at h
      · next hlevel => exact ⟨name, hname, by simpa using hlevel⟩
      · cases h

end

end Settings

namespace CommandLine

theorem port_of_reads {v : Value} (h : Reads .port v) :
    v = .list [] ∨ ∃ n, v = .int n ∧ 1 ≤ n ∧ n ≤ 65535 := by
  cases h with
  | nothing => exact .inl rfl
  | @read s v h =>
    obtain ⟨n, hread, rfl⟩ := map_eq_ok.1 (mapError_eq_ok.1 h)
    obtain ⟨k, -, hrange⟩ := bind_eq_ok.1 hread
    split at hrange
    · obtain rfl := Except.ok.inj hrange
      exact .inr ⟨k, rfl, by omega, by omega⟩
    · cases hrange

theorem timeout_of_reads {v : Value} (h : Reads .readTimeout v) :
    v = .list [] ∨ ∃ x, v = .double x := by
  cases h with
  | nothing => exact .inl rfl
  | @read s v h =>
    obtain ⟨x, -, rfl⟩ := map_eq_ok.1 (mapError_eq_ok.1 h)
    exact .inr ⟨x, rfl⟩

theorem sessions_of_reads {v : Value} (h : Reads .maxSessions v) :
    v = .list [] ∨ ∃ n, v = .int n := by
  cases h with
  | nothing => exact .inl rfl
  | @read s v h =>
    obtain ⟨n, -, rfl⟩ := map_eq_ok.1 (mapError_eq_ok.1 h)
    exact .inr ⟨n, rfl⟩

end CommandLine

namespace Settings

section

variable {env : Environment} {a : Arguments} {s : Settings}

theorem orElse_eq_ok {α : Type} {r : Except Fault α} {f : Fault} {b : α} :
    Reading.orElse r f = .ok b ↔ r = .ok b := by
  unfold Reading.orElse
  cases r <;> simp

/-- A setting of the command line, other than the style: the argument, or else what the variable holds,
or else the default. -/
inductive Given (env : Environment) (x : Variable) (v w : Value) : Prop where
  | argument (hv : v ≠ .null) (hw : w = v)
  | read {held : Value} (hv : v = .null) (hheld : held? env x = some held) (hw : x.read held = .ok w)
  | standard (hv : v = .null) (hheld : held? env x = none)
      (hw : ({} : Settings).fields.lookup x.setting = some w)

theorem nodup_overrides (a : Arguments) : (a.overrides.map Prod.fst).Nodup := by
  show ["port", "host", "charset", "output_format", "preserve_spacing", "read_timeout",
    "max_sessions", "log_level"].Nodup
  decide

theorem given_of_arguments (h : fromEnvironment env a.overrides = .ok s) {x : Variable}
    (hx : x ∈ environmentVariables) (hstyle : x.setting ≠ "output_format") {v w : Value}
    (hv : a.overrides.lookup x.setting = some v) (hw : s.fields.lookup x.setting = some w) :
    Given env x v w := by
  obtain ⟨w', hw', horigin⟩ := origin_of_fromEnvironment h hx
  obtain rfl := Option.some.inj (hw'.symm.trans hw)
  have hgiven : given? a.overrides x.setting = if v.isNull then none else some v := by
    rw [given?_eq_lookup (nodup_overrides a), hv, Option.filter_some]
    cases v.isNull <;> rfl
  by_cases hnull : v = .null
  · subst hnull
    cases horigin with
    | overridden hover => cases hgiven.symm.trans hover
    | read _ hheld hread => exact .read rfl hheld hread
    | standard _ hheld hdefault => exact .standard rfl hheld hdefault
  · have hgiven' : given? a.overrides x.setting = some v := by
      rw [hgiven, if_neg]
      intro hv
      cases v with
      | null => exact hnull rfl
      | _ => cases hv
    cases horigin with
    | overridden hover hstored =>
      obtain rfl := Option.some.inj (hgiven'.symm.trans hover)
      rw [stored, if_neg hstyle] at hstored
      exact .argument hnull (Except.ok.inj hstored).symm
    | read hnone => cases hnone.symm.trans hgiven'
    | standard hnone => cases hnone.symm.trans hgiven'

/-- The variable of the time limit. -/
def timeoutVariable : Variable :=
  numberVariable "TAGGER_READ_TIMEOUT" "read_timeout" fun v => (Reading.real v).map .double

/-- The time limit that is asked for is not a number: on the command line, or else in the environment. -/
def AsksForNan (a : Arguments) (env : Environment) : Prop :=
  a.readTimeout = .double .nan ∨
    a.readTimeout = .null ∧
      ∃ held, held? env timeoutVariable = some held ∧ Reading.real held = .ok .nan

theorem port_of_valid {texts : List String} (hread : CommandLine.read texts = .ok a)
    (h : fromEnvironment env a.overrides = .ok s) (hvalid : s.Validated) :
    ∃ n, s.port = .int n ∧ 1 ≤ n ∧ n ≤ 65535 := by
  have hreads := CommandLine.port_of_reads (CommandLine.reads_or_null hread).1
  have hgiven : a.port ≠ .null := by
    intro hnull
    rw [hnull] at hreads
    obtain hlist | ⟨n, hn, -⟩ := hreads
    · cases hlist
    · cases hn
  have hx : (⟨"TAGGER_PORT", "port", fun v => (Reading.port v).map .int⟩ : Variable) ∈
      environmentVariables := by
    simp [environmentVariables]
  have hsame : s.port = a.port := by
    cases given_of_arguments h hx (by decide) (v := a.port) (w := s.port) rfl rfl with
    | argument _ hw => exact hw
    | read hv => exact absurd hv hgiven
    | standard hv => exact absurd hv hgiven
  have hcheck := hvalid.port
  rw [hsame] at hcheck ⊢
  apply hreads.resolve_left
  intro hlist
  rw [hlist] at hcheck
  cases hcheck

/-- A number is that of the command line, one that the environment holds, or none. -/
theorem number_cases {α : Type} {name setting : String} {read : Value → Except Fault α}
    {make : α → Value} {v w : Value} (h : fromEnvironment env a.overrides = .ok s)
    (hx : numberVariable name setting (fun v => (read v).map make) ∈ environmentVariables)
    (hstyle : setting ≠ "output_format")
    (hdefault : ({} : Settings).fields.lookup setting = some .null)
    (hv : a.overrides.lookup setting = some v) (hw : s.fields.lookup setting = some w) :
    (v ≠ .null ∧ w = v) ∨
    (v = .null ∧ ∃ held y, held? env (numberVariable name setting fun v => (read v).map make) =
      some held ∧ read held = .ok y ∧ w = make y) ∨
    (v = .null ∧ held? env (numberVariable name setting fun v => (read v).map make) = none ∧
      w = .null) := by
  cases given_of_arguments h hx hstyle hv hw with
  | argument hv hw => exact .inl ⟨hv, hw⟩
  | @read held hv hheld hread =>
    obtain ⟨y, hy, hmade⟩ := map_eq_ok.1 (orElse_eq_ok.1 hread)
    exact .inr (.inl ⟨hv, held, y, hheld, hy, hmade.symm⟩)
  | standard hv hheld hw =>
    exact .inr (.inr ⟨hv, hheld, (Option.some.inj (hdefault.symm.trans hw)).symm⟩)

theorem readTimeout_cases (h : fromEnvironment env a.overrides = .ok s) :
    (a.readTimeout ≠ .null ∧ s.readTimeout = a.readTimeout) ∨
    (a.readTimeout = .null ∧ ∃ held x, held? env timeoutVariable = some held ∧
      Reading.real held = .ok x ∧ s.readTimeout = .double x) ∨
    (a.readTimeout = .null ∧ held? env timeoutVariable = none ∧ s.readTimeout = .null) :=
  number_cases h (by simp [environmentVariables]) (by decide) rfl rfl rfl

theorem maxSessions_of_valid {texts : List String} (hread : CommandLine.read texts = .ok a)
    (h : fromEnvironment env a.overrides = .ok s) (hvalid : s.Validated) :
    s.maxSessions = .null ∨ IsCount s.maxSessions := by
  have hcheck := hvalid.maxSessions
  have hwhole : ∀ n, s.maxSessions = .int n → s.maxSessions = .null ∨ IsCount s.maxSessions := by
    intro n hn
    rw [hn] at hcheck ⊢
    exact .inr (isCount_of_checkCount hcheck)
  have hx : numberVariable "TAGGER_MAX_SESSIONS" "max_sessions" (fun v =>
      (Reading.whole v).map .int) ∈ environmentVariables := by
    simp [environmentVariables]
  obtain ⟨hgiven, hsame⟩ | ⟨-, held, n, -, -, hn⟩ | ⟨-, -, hnull⟩ :=
    number_cases h hx (by decide) rfl (v := a.maxSessions) (w := s.maxSessions) rfl rfl
  · have hreads := ((CommandLine.reads_or_null hread).2 .maxSessions).resolve_right hgiven
    obtain hnothing | ⟨n, hn⟩ := CommandLine.sessions_of_reads hreads
    · have hlist : s.maxSessions = .list [] := hsame.trans hnothing
      rw [hlist] at hcheck
      cases hcheck
    · exact hwhole n (hsame.trans hn)
  · exact hwhole n hn
  · exact .inl hnull

/-- A valid time limit is no number just when such a one is asked for, and else it is in range. -/
theorem readTimeout_of_valid {texts : List String} (hread : CommandLine.read texts = .ok a)
    (h : fromEnvironment env a.overrides = .ok s) (hvalid : s.Validated) :
    (AsksForNan a env → s.readTimeout = .double .nan) ∧
    (¬AsksForNan a env → s.readTimeout = .null ∨ IsDuration s.readTimeout) := by
  have hcheck := hvalid.readTimeout
  have hreal : ∀ x, s.readTimeout = .double x → x ≠ .nan → IsDuration s.readTimeout := by
    intro x hx hnan
    rw [hx] at hcheck
    exact ⟨x, hx, (positive_of_checkPositive hcheck).resolve_left hnan⟩
  obtain ⟨hgiven, hsame⟩ | ⟨hnull, held, x, hheld, hx, hs⟩ | ⟨hnull, hheld, hs⟩ := readTimeout_cases h
  · -- the command line has the time limit
    have hreads := ((CommandLine.reads_or_null hread).2 .readTimeout).resolve_right hgiven
    constructor
    · rintro (hnan | ⟨hnull, -⟩)
      · exact hsame.trans hnan
      · exact absurd hnull hgiven
    · intro hno
      obtain hnothing | ⟨x, hx⟩ := CommandLine.timeout_of_reads hreads
      · have hlist : s.readTimeout = .list [] := hsame.trans hnothing
        rw [hlist] at hcheck
        cases hcheck
      · refine .inr (hreal x (hsame.trans hx) ?_)
        rintro rfl
        exact hno (.inl hx)
  · -- the environment has it
    constructor
    · rintro (hnan | ⟨-, held', hheld', hx'⟩)
      · cases hnull.symm.trans hnan
      · obtain rfl := Option.some.inj (hheld.symm.trans hheld')
        rw [hs, Except.ok.inj (hx.symm.trans hx')]
    · intro hno
      refine .inr (hreal x hs ?_)
      rintro rfl
      exact hno (.inr ⟨hnull, held, hheld, hx⟩)
  · constructor
    · rintro (hnan | ⟨-, held, hheld', -⟩)
      · cases hnull.symm.trans hnan
      · cases hheld.symm.trans hheld'
    · intro _
      exact .inl hs

/-- Settings that come of a command line that was read and of an environment, and that pass for valid,
are in range; the time limit is, unless one is asked for that is not a number. -/
theorem settings_inRange {texts : List String} {a : Arguments} {env : Environment} {s : Settings}
    (hread : CommandLine.read texts = .ok a) (h : a.settings env = .ok s) :
    s.InRange ∧ (AsksForNan a env → s.readTimeout = .double .nan) ∧
      (¬AsksForNan a env → s.readTimeout = .null ∨ IsDuration s.readTimeout) := by
  obtain ⟨s', hmade, h⟩ := bind_eq_ok.1 h
  obtain ⟨_, hvalidate, h⟩ := bind_eq_ok.1 h
  obtain rfl := Except.ok.inj h
  have hvalid : s'.Validated := (validate_eq_ok_iff s').1 hvalidate
  refine ⟨?_, readTimeout_of_valid hread hmade hvalid⟩
  have hstandard : ∀ name ∈ names, a.overrides.lookup name = none →
      name ∉ environmentVariables.map Variable.setting →
      s'.fields.lookup name = ({} : Settings).fields.lookup name := by
    intro name hname hnone hno
    have hgiven : given? a.overrides name = none := by
      rw [given?_eq_lookup (nodup_overrides a), hnone]
      rfl
    exact lookup_of_fromEnvironment hmade hname hgiven hno
  have hbacklog : s'.backlog = .int 128 :=
    Option.some.inj (hstandard "backlog" (by decide) rfl (by decide))
  have hbuffer : s'.bufferSize = .int 4096 :=
    Option.some.inj (hstandard "buffer_size" (by decide) rfl (by decide))
  have hmax : s'.maxLineBytes = .int (1024 * 1024) :=
    Option.some.inj (hstandard "max_line_bytes" (by decide) rfl (by decide))
  have hpoll : s'.acceptPollInterval = .double (Double.ofInt 1) :=
    Option.some.inj (hstandard "accept_poll_interval" (by decide) rfl (by decide))
  exact {
    port := port_of_valid hread hmade hvalid
    charset := by
      obtain ⟨name, codec, hname, hfault, hfind⟩ := checkCharset_eq_ok_iff.1 hvalid.charset
      refine ⟨name, hname, ?_⟩
      rw [Charset.isKnown, hfault, hfind]
      rfl
    backlog := ⟨128, hbacklog, by decide⟩
    bufferSize := ⟨4096, hbuffer, by decide⟩
    maxLineBytes := ⟨1024 * 1024, hmax, by decide⟩
    acceptPollInterval := by
      have hcheck := hvalid.acceptPollInterval
      rw [hpoll] at hcheck
      exact ⟨Double.ofInt 1, hpoll, (positive_of_checkPositive hcheck).resolve_left (by decide)⟩
    maxSessions := maxSessions_of_valid hread hmade hvalid
    logLevel := level_of_checkLogLevel hvalid.logLevel }

/-- A time limit of the command line, with a level, and a number of sessions of the environment. -/
theorem settings_inRange_timeout :
    let texts := ["-port", "9191", "-readTimeout", "2.5", "-logLevel", "DEBUG"]
    let env : Environment := [("TAGGER_MAX_SESSIONS", .text "3")]
    ∃ a s, CommandLine.read texts = .ok a ∧ a.settings env = .ok s ∧ s.InRange ∧
      (s.readTimeout = .null ∨ IsDuration s.readTimeout) := by
  intro texts env
  let limit : Value := .double (.finite false 5629499534213120 (-51))
  let a : Arguments := { port := .int 9191, readTimeout := limit, logLevel := .text "DEBUG" }
  let s : Settings :=
    { port := .int 9191, readTimeout := limit, logLevel := .text "DEBUG", maxSessions := .int 3 }
  have hread : CommandLine.read texts = .ok a := rfl
  have h : a.settings env = .ok s := rfl
  obtain ⟨hrange, -, htimeout⟩ := settings_inRange hread h
  refine ⟨a, s, hread, h, hrange, htimeout ?_⟩
  rintro (hnan | ⟨hnull, -⟩)
  · cases hnan
  · cases hnull

/-- A time limit that is not a number is accepted. -/
theorem settings_accepts_nan :
    let texts := ["-port", "9191", "-readTimeout", "nan"]
    ∃ a s, CommandLine.read texts = .ok a ∧ a.settings [] = .ok s ∧ s.readTimeout = .double .nan ∧
      ¬Double.IsPositive .nan :=
  ⟨{ port := .int 9191, readTimeout := .double .nan },
    { port := .int 9191, readTimeout := .double .nan }, rfl, rfl, rfl, id⟩

end

end Settings

end LineTagger
