import LineTagger.CommandLine

/-!
What a command line leaves in its arguments: under each flag that was given a value that the flag reads,
and null under the others. The port is always given.
-/

namespace LineTagger

namespace Arguments

/-- The value of a flag among arguments. -/
def value (a : Arguments) : Flag → Value
  | .port => a.port
  | .host => a.host
  | .encoding => a.encoding
  | .modelFile => a.modelFile
  | .modelName => a.modelName
  | .outputFormat => a.outputFormat
  | .preserveSpacing => a.preserveSpacing
  | .readTimeout => a.readTimeout
  | .maxSessions => a.maxSessions
  | .client => a.client
  | .logLevel => a.logLevel
  | .help | .version => .null

theorem value_assign (a : Arguments) {f : Flag} (hhelp : f ≠ .help) (hversion : f ≠ .version)
    (v : Value) (g : Flag) : (a.assign f v).value g = if g = f then v else a.value g := by
  cases f with
  | help => exact absurd rfl hhelp
  | version => exact absurd rfl hversion
  | _ => cases g <;> rfl

end Arguments

namespace CommandLine

/-- A value that is given to a flag: one that the flag reads, or nothing at all, when two dashes stood
for it. -/
inductive Reads (f : Flag) : Value → Prop where
  | read {s : String} {v : Value} (h : f.read s = .ok v) : Reads f v
  | nothing : Reads f (.list [])

/-- The flags that were given have values that they read, and the others have none. -/
def Filled (p : Progress) : Prop :=
  ∀ f, if f ∈ p.seen then Reads f (p.arguments.value f) else p.arguments.value f = .null

variable {p q : Progress} {f : Flag} {texts : List String}

theorem reads_valueOf {v : Value} (h : valueOf f texts = .ok v) : Reads f v := by
  unfold valueOf at h
  split at h
  · exact .read h
  · exact .read h
  · obtain rfl := Except.ok.inj h
    exact .nothing

theorem take_eq_ok (h : take p f texts = .ok q) : ∃ v, f ≠ .help ∧ f ≠ .version ∧ Reads f v ∧
    q = { p with arguments := p.arguments.assign f v, seen := f :: p.seen } := by
  unfold take at h
  split at h
  · cases h
  · cases h
  · next hhelp hversion =>
    split at h
    · cases h
    · next v hv =>
      refine ⟨v, by simpa using hhelp, by simpa using hversion, reads_valueOf hv, ?_⟩
      split at h
      · split at h
        · cases h
        · exact (Except.ok.inj h).symm
      · exact (Except.ok.inj h).symm

theorem Filled.take (hp : Filled p) (h : take p f texts = .ok q) : Filled q := by
  obtain ⟨v, hhelp, hversion, hreads, rfl⟩ := take_eq_ok h
  intro g
  dsimp only
  rw [Arguments.value_assign p.arguments hhelp hversion]
  by_cases hg : g = f
  · subst hg
    simpa using hreads
  · have hrest := hp g
    simpa [hg] using hrest

/-- What taking a flag keeps, and setting a text apart, reading a whole command line keeps. -/
structure Kept (I : Progress → Prop) : Prop where
  take : ∀ {p q : Progress} {f : Flag} {texts : List String}, I p → take p f texts = .ok q → I q
  setApart : ∀ (p : Progress) (s : String), I p → I { p with extras := p.extras ++ [s] }

section

variable {I : Progress → Prop} (hI : Kept I)

include hI

theorem Kept.foldlM {calls : List (Flag × List String)} (hp : I p)
    (h : calls.foldlM (fun p (f, texts) => CommandLine.take p f texts) p = .ok q) : I q := by
  induction calls generalizing p with
  | nil =>
    obtain rfl := Except.ok.inj h
    exact hp
  | cons call calls ih =>
    rw [List.foldlM_cons] at h
    obtain ⟨p', htake, hrest⟩ := bind_eq_ok.1 h
    exact ih (hI.take hp htake) hrest

theorem Kept.takeSpelled {s : Spelled} {waiting : Option Flag} (hp : I p)
    (h : takeSpelled p s = .ok (q, waiting)) : I q := by
  unfold CommandLine.takeSpelled at h
  split at h
  · unfold takeAttached at h
    split at h
    · cases h
    · obtain ⟨p', hcalls, hq⟩ := bind_eq_ok.1 h
      cases hq
      exact hI.foldlM hp hcalls
  · cases h
    exact hp

theorem Kept.takeAlone (hp : I p) (h : takeAlone p f = .ok q) : I q := by
  unfold CommandLine.takeAlone at h
  split at h
  · cases h
  · exact hI.take hp h

theorem Kept.interpret {ps : List (String × Part)} (hp : I p) (h : interpret p ps = .ok q) : I q := by
  fun_induction CommandLine.interpret p ps with
  | case1 p =>
    obtain rfl := Except.ok.inj h
    exact hp
  | case2 p _ s t rest ihHere ihNext =>
    -- a flag in front of a text that may be its argument
    obtain ⟨⟨p', waiting⟩, hspelled, h⟩ := bind_eq_ok.1 h
    have hp' : I p' := hI.takeSpelled hp hspelled
    cases waiting with
    | none => exact ihHere p' hp' h
    | some f =>
      dsimp only at h
      split at h
      · obtain ⟨p'', htake, h⟩ := bind_eq_ok.1 h
        exact ihHere p'' (hI.take hp' htake) h
      · obtain ⟨p'', htake, h⟩ := bind_eq_ok.1 h
        exact ihNext p'' (hI.take hp' htake) h
  | case3 p _ s rest _ ih =>
    obtain ⟨⟨p', waiting⟩, hspelled, h⟩ := bind_eq_ok.1 h
    have hp' : I p' := hI.takeSpelled hp hspelled
    cases waiting with
    | none => exact ih p' hp' h
    | some f =>
      obtain ⟨p'', htake, h⟩ := bind_eq_ok.1 h
      exact ih p'' (hI.takeAlone hp' htake) h
  | case4 p s _ rest _ _ ih => exact ih (hI.setApart p s hp) h

end

theorem kept_filled : Kept Filled := ⟨fun hp h => hp.take h, fun _ _ hp => hp⟩

/-- What was read of a command line: each flag has a value that it reads, or none, and there is a port. -/
theorem reads_or_null {texts : List String} {a : Arguments} (h : read texts = .ok a) :
    Reads .port a.port ∧ ∀ f, Reads f (a.value f) ∨ a.value f = .null := by
  unfold read at h
  split at h
  · cases h
  · obtain ⟨p, hread, h⟩ := bind_eq_ok.1 h
    have hblank : Filled {} := by
      intro f
      cases f <;> rfl
    have hfilled : Filled p := kept_filled.interpret hblank hread
    have hseen : Flag.port ∈ p.seen := by
      by_cases hport : Flag.port ∈ p.seen
      · exact hport
      · simp [hport] at h
        cases h
    have harguments : p.arguments = a := by
      dsimp only at h
      split at h
      · cases h
      · split at h
        · cases h
        · exact Except.ok.inj h
    subst harguments
    refine ⟨?_, fun f => ?_⟩
    · have hvalue := hfilled .port
      rwa [if_pos hseen] at hvalue
    · have hvalue := hfilled f
      split at hvalue
      · exact .inl hvalue
      · exact .inr hvalue

end CommandLine

end LineTagger
