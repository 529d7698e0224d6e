import LineTagger.Proofs.Application.Footprint
import LineTagger.Proofs.Server.Stopping

/-!
The order in which a run of the program does things: it opens nothing before its command line and its
settings are known to be usable, listens only when its model is loaded, accepts clients only when it
listens, and ends well only when it was asked to stop.
-/

namespace LineTagger

namespace Event

/-- Whether an event is an operation on a listening socket. -/
def isListener : Event → Bool
  | .listener .. => true
  | _ => false

/-- Whether an event is about clients: a wait for one, or a thread. -/
def attends : Event → Bool
  | .listener _ op => op.isWait
  | .thread _ => true
  | _ => false

/-- An event that only tells something: a line of the log, or a text. -/
def Tells : Event → Prop
  | .log .. | .output _ | .errorOutput _ => True
  | _ => False

theorem Tells.quiet {e : Event} (h : e.Tells) :
    e.opens = false ∧ e.isListener = false ∧ e.attends = false := by
  cases e with
  | log | output | errorOutput => exact ⟨rfl, rfl, rfl⟩
  | _ => cases h

end Event

namespace LogStyle

variable {style : LogStyle} {threshold : Int} {e : Event}

/-- Writing out the log turns some lines of it into texts and leaves everything else as it is. -/
theorem written_eq_some {e' : Event} (h : style.written threshold e = some e') :
    e' = e ∨ ∃ text, e' = .errorOutput text := by
  unfold written at h
  split at h
  · split at h
    · exact .inr ⟨_, (Option.some.inj h).symm⟩
    · cases h
  · exact .inl (Option.some.inj h).symm

theorem mem_writeLog {α : Type} {r : Run α} (h : e ∈ (style.writeLog threshold r).events) :
    e ∈ r.events ∨ e.Tells := by
  obtain ⟨e', he', hwritten⟩ := List.mem_filterMap.1 h
  obtain rfl | ⟨text, rfl⟩ := written_eq_some hwritten
  · exact .inl he'
  · exact .inr trivial

theorem tells_writeLog {α : Type} {r : Run α} (h : r.Shows Event.Tells) :
    ∀ e ∈ (style.writeLog threshold r).events, e.Tells :=
  fun e he => (mem_writeLog he).elim (h.each e) id

end LogStyle

namespace Application

/-- The loading of the model that arguments name. -/
def loading (a : Arguments) (s : Surroundings) : Run Gazetteer :=
  Model.load s.folder (a.modelFile.text?.getD "") (a.modelName.text?.getD "")

/-- What is done when loading came to something. -/
def afterLoading (settings : Settings) (s : Surroundings) : Except Fault Gazetteer → Run Nat
  | .ok g => serve settings g s
  | .error f => if f.isModel then giveUp f else Run.fail f

/-- The events of a run as the log of these settings shows them. -/
def shown {α : Type} (settings : Settings) (s : Surroundings) (r : Run α) : List Event :=
  (s.logStyle.writeLog (threshold settings) r).events

/-- A run that serves clients. -/
structure Serves (a : Arguments) (settings : Settings) (s : Surroundings) (r : Run Nat) : Prop where
  /-- a listening socket is touched only when the model was loaded, and after that -/
  loaded : ∀ before e after, r.events = before ++ e :: after → e.isListener = true →
    (∃ g, (loading a s).result = .ok g) ∧ shown settings s (loading a s) <+: before
  /-- a model that cannot be used leaves everything closed -/
  unloadable : ∀ e, (loading a s).result = .error (.model e) →
    r.result = .ok 1 ∧ ∀ e ∈ r.events, e.opens = false
  /-- a failure to listen comes before any client -/
  unbound : ∀ g host port reason, (loading a s).result = .ok g →
    ((serverOf settings g s).run true s.visits).1.result = .error (.bind host port reason) →
    r.result = .ok 1 ∧ ∀ e ∈ r.events, e.attends = false
  /-- serving ends well only when the listener was asked to stop: during a visit that it took, or when
  no more of them were to come -/
  stopped : r.result = .ok 0 → ∃ g, (loading a s).result = .ok g ∧
    (serverOf settings g s).reception.listener.stopping = false ∧
    ((serverOf settings g s).run true s.visits).2.1.reception.listener.stopping = true ∧
    ((∃ y ∈ (serverOf settings g s).takes (.run true s.visits),
        Reception.asks (serverOf settings g s).host y.1 y.2 = true) ∨
      ∃ n, .listener n .acceptEnd ∈ r.events)

/-- What is settled before a run of the program opens anything, and how it ends when it does not. -/
structure Orderly (texts : List String) (s : Surroundings) : Prop where
  configured : ∀ e ∈ (run texts s).events, e.opens = true → ∃ a settings,
    CommandLine.read texts = .ok a ∧ a.settings s.environment = .ok settings
  told : ∀ h, CommandLine.read texts = .error h → h = .help ∨ h = .version →
    (run texts s).result = .ok 0 ∧ ∀ e ∈ (run texts s).events, e.opens = false
  misused : ∀ e, CommandLine.read texts = .error (.error e) →
    (run texts s).result = .ok 2 ∧ ∀ e ∈ (run texts s).events, e.opens = false
  unusable : ∀ a e, CommandLine.read texts = .ok a → a.settings s.environment = .error (.config e) →
    (run texts s).result = .ok 2 ∧ ∀ e ∈ (run texts s).events, e.opens = false
  /-- a client does nothing but hold its dialogue, whatever files there are -/
  converses : ∀ a settings, CommandLine.read texts = .ok a → a.settings s.environment = .ok settings →
    a.client ≠ .null → (∀ e ∈ (run texts s).events, e.isListener = false) ∧
      ∀ folder, run texts { s with folder } = converse a.client settings s
  serves : ∀ a settings, CommandLine.read texts = .ok a → a.settings s.environment = .ok settings →
    a.client = .null → Serves a settings s (run texts s)

variable {texts : List String} {a : Arguments} {settings : Settings} {s : Surroundings}

theorem run_of_halt {h : Halt} (hread : CommandLine.read texts = .error h) : run texts s = halt h := by
  rw [run, hread]

theorem run_of_act (hread : CommandLine.read texts = .ok a)
    (hsettings : a.settings s.environment = .ok settings) : run texts s = act a settings s := by
  simp only [run, hread, hsettings]

theorem shows_halt (h : Halt) : (halt h).Shows Event.Tells := by
  cases h <;> exact ⟨List.forall_mem_singleton.2 trivial⟩

theorem act_client (h : a.client ≠ .null) : act a settings s = converse a.client settings s := by
  unfold act
  split
  · next hnull => exact absurd hnull h
  · rfl

theorem act_server (h : a.client = .null) :
    act a settings s = s.logStyle.writeLog (threshold settings) (loadAndServe a settings s) := by
  rw [act, h]

theorem loadAndServe_eq : loadAndServe a settings s =
    ⟨(loading a s).events ++ (afterLoading settings s (loading a s).result).events,
      (afterLoading settings s (loading a s).result).result⟩ := rfl

theorem events_act_server (h : a.client = .null) :
    (act a settings s).events = shown settings s (loading a s) ++
      shown settings s (afterLoading settings s (loading a s).result) := by
  rw [act_server h, loadAndServe_eq]
  exact List.filterMap_append

theorem result_act_server (h : a.client = .null) :
    (act a settings s).result = (afterLoading settings s (loading a s).result).result := by
  rw [act_server h]
  rfl

theorem tells_loading : ∀ e ∈ shown settings s (loading a s), e.Tells := by
  have hlogs : (loading a s).Shows Event.Logs := Model.shows_load ..
  refine LogStyle.tells_writeLog ⟨fun e he => ?_⟩
  have hlog := hlogs.each e he
  cases e with
  | log => trivial
  | _ => cases hlog

theorem shows_giveUp (f : Fault) : (giveUp f).Shows Event.Tells :=
  ⟨List.forall_mem_singleton.2 trivial⟩

theorem shows_afterLoading_error (f : Fault) :
    (afterLoading settings s (.error f)).Shows Event.Tells := by
  show (if f.isModel then giveUp f else Run.fail f).Shows Event.Tells
  split
  · exact shows_giveUp f
  · exact .fail f

theorem result_serve (g : Gazetteer) : (serve settings g s).result =
    match ((serverOf settings g s).run true s.visits).1.result with
      | .ok () => .ok 0
      | .error f => if f.isBind then .ok 1 else .error f := by
  unfold serve
  rw [Run.attempt_bind]
  cases ((serverOf settings g s).run true s.visits).1.result with
  | ok _ => rfl
  | error f =>
    dsimp only
    split <;> rfl

theorem events_serve (settings : Settings) (s : Surroundings) (g : Gazetteer) : ∃ es, (∀ e ∈ es, e.Tells) ∧
    (serve settings g s).events = ((serverOf settings g s).run true s.visits).1.events ++ es := by
  unfold serve
  rw [Run.attempt_bind]
  refine ⟨_, ?_, rfl⟩
  cases ((serverOf settings g s).run true s.visits).1.result with
  | ok _ => exact List.forall_mem_nil _
  | error f =>
    dsimp only
    split
    · exact (shows_giveUp f).each
    · exact List.forall_mem_nil _

/-- What comes of a part that only tells something is in front of an event that does more. -/
theorem before_of_tells {es fs before after : List Event} {e : Event} (hes : ∀ e ∈ es, e.Tells)
    (he : ¬e.Tells) (h : es ++ fs = before ++ e :: after) : es <+: before ∧ e ∈ fs := by
  obtain ⟨more, rfl, hfs⟩ | ⟨less, hbefore, hafter⟩ := List.append_eq_append_iff.1 h
  · exact ⟨List.prefix_append .., hfs ▸ List.mem_append_right _ List.mem_cons_self⟩
  · cases less with
    | nil =>
      obtain rfl : es = before := by simpa using hbefore
      rw [List.nil_append] at hafter
      exact ⟨List.prefix_refl _, hafter ▸ List.mem_cons_self⟩
    | cons e' less =>
      obtain ⟨rfl, -⟩ := List.cons.inj hafter
      exact absurd (hes e (by simp [hbefore])) he

theorem serves_act (h : a.client = .null) : Serves a settings s (act a settings s) where
  loaded := by
    intro before e after hevents he
    have hmore : ¬e.Tells := by
      intro htells
      rw [htells.quiet.2.1] at he
      cases he
    rw [events_act_server h] at hevents
    obtain ⟨hbefore, hlater⟩ := before_of_tells tells_loading hmore hevents
    refine ⟨?_, hbefore⟩
    cases hload : (loading a s).result with
    | ok g => exact ⟨g, rfl⟩
    | error f =>
      rw [hload] at hlater
      exact absurd (LogStyle.tells_writeLog (shows_afterLoading_error f) e hlater) hmore
  unloadable := by
    intro e hload
    rw [result_act_server h, events_act_server h, hload]
    refine ⟨rfl, fun e he => ?_⟩
    obtain he | he := List.mem_append.1 he
    · exact (tells_loading e he).quiet.1
    · exact (LogStyle.tells_writeLog (shows_afterLoading_error _) e he).quiet.1
  unbound := by
    intro g host port reason hload hrun
    rw [result_act_server h, events_act_server h, hload, afterLoading, result_serve, hrun]
    refine ⟨rfl, fun e he => ?_⟩
    obtain he | he := List.mem_append.1 he
    · exact (tells_loading e he).quiet.2.2
    obtain he | htells := LogStyle.mem_writeLog he
    · obtain ⟨es, hes, hevents⟩ := events_serve settings s g
      rw [hevents, Server.events_of_isBind hrun rfl] at he
      obtain he | he := List.mem_append.1 he
      · have hstart : (serverOf settings g s).start.1.Shows Event.Binds :=
          (serverOf settings g s).reception.listener.shows_bind
        have hbinds := hstart.each e he
        cases e with
        | log => rfl
        | listener => exact hbinds
        | _ => cases hbinds
      · exact (hes e he).quiet.2.2
    · exact htells.quiet.2.2
  stopped := by
    intro hresult
    rw [result_act_server h] at hresult
    cases hload : (loading a s).result with
    | error f =>
      rw [hload] at hresult
      simp only [afterLoading] at hresult
      split at hresult <;> cases hresult
    | ok g =>
      rw [hload, afterLoading, result_serve] at hresult
      cases hrun : ((serverOf settings g s).run true s.visits).1.result with
      | error f =>
        rw [hrun] at hresult
        dsimp only at hresult
        split at hresult <;> cases hresult
      | ok _ =>
        have hgoing : (serverOf settings g s).reception.listener.stopping = false := rfl
        obtain ⟨hstopped, hasked⟩ := Server.asked_of_run hgoing hrun
        refine ⟨g, rfl, hgoing, hstopped, hasked.imp_right ?_⟩
        rintro ⟨n, hn⟩
        obtain ⟨es, -, hevents⟩ := events_serve settings s g
        rw [events_act_server h, hload, afterLoading]
        refine ⟨n, List.mem_append_right _ (List.mem_filterMap.2 ⟨.listener n .acceptEnd, ?_, rfl⟩)⟩
        rw [hevents]
        exact List.mem_append_left _ hn

/-- Whatever the command line, the environment, the files and what the listener and the network meet, a
run of the program does things in their order. -/
theorem run_orderly (texts : List String) (s : Surroundings) : Orderly texts s where
  configured := by
    intro e he hopens
    cases hread : CommandLine.read texts with
    | error h =>
      rw [run_of_halt hread] at he
      rw [((shows_halt h).each e he).quiet.1] at hopens
      cases hopens
    | ok a =>
      cases hsettings : a.settings s.environment with
      | ok settings => exact ⟨a, settings, rfl, hsettings⟩
      | error f =>
        simp only [run, hread, hsettings] at he
        split at he
        · rw [((shows_halt _).each e he).quiet.1] at hopens
          cases hopens
        · cases he
  told := by
    rintro h hread (rfl | rfl) <;> rw [run_of_halt hread] <;>
      exact ⟨rfl, fun e he => ((shows_halt _).each e he).quiet.1⟩
  misused := by
    intro e hread
    rw [run_of_halt hread]
    exact ⟨rfl, fun e he => ((shows_halt _).each e he).quiet.1⟩
  unusable := by
    intro a e hread hsettings
    have hrun : run texts s = halt (.error (.unusable (.config e))) := by
      simp only [run, hread, hsettings, Fault.isConfig, if_true]
    rw [hrun]
    exact ⟨rfl, fun e he => ((shows_halt _).each e he).quiet.1⟩
  converses := by
    intro a settings hread hsettings hclient
    refine ⟨fun e he => ?_, fun folder => ?_⟩
    · rw [run_of_act hread hsettings, act_client hclient] at he
      have haside := (Dialogue.shows_run _ _ _).each e he
      cases e with
      | listener => cases haside
      | _ => rfl
    · have hfolder : run texts { s with folder } = act a settings { s with folder } :=
        run_of_act hread hsettings
      rw [hfolder, act_client hclient]
      rfl
  serves := by
    intro a settings hread hsettings hclient
    rw [run_of_act hread hsettings]
    exact serves_act hclient

/-- A server that finds its port taken. -/
theorem run_orderly_taken :
    let taken : Fault := .ofNumber 98 "Address already in use"
    let s : Surroundings :=
      { network := { dials := [], now := default }, listenerFaults := fun _ => { bind := some taken }
        visits := [.arrival none false none none], logStyle := ⟨"", Fault.message⟩ }
    (run ["-port", "9191"] s).result = .ok 1 ∧
      ∀ e ∈ (run ["-port", "9191"] s).events, e.attends = false := by
  intro taken s
  have hread : CommandLine.read ["-port", "9191"] = .ok { port := .int 9191 } := rfl
  have hsettings : ({ port := .int 9191 } : Arguments).settings s.environment =
      .ok { port := .int 9191 } := rfl
  have hsuffix : "default".endsWith ".json" = false := by decide +kernel
  have hload : (loading { port := .int 9191 } s).result = .ok Model.defaultModel := by
    simp only [loading, Model.load, Model.loadBundled, hsuffix]
    rfl
  have hrun : ((serverOf { port := .int 9191 } Model.defaultModel s).run true s.visits).1.result =
      .error (.bind (.text "0.0.0.0") (.int 9191) "[Errno 98] Address already in use") := rfl
  exact ((run_orderly ["-port", "9191"] s).serves _ _ hread hsettings rfl).unbound _ _ _ _ hload hrun

end Application

end LineTagger
