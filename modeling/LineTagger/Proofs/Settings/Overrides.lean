import LineTagger.Proofs.Settings.Fields

/-!
Settings from the environment with overrides. A setting that is overridden does not depend on its
variable, but a variable that cannot be read is refused before the overrides are looked at.
-/

namespace LineTagger.Settings

/-- What a variable holds, if it is set and not empty. -/
def held? (env : Environment) (x : Variable) : Option Value := (env.lookup x.name).filter Value.isTrue

namespace Variable

/-- What reading a variable comes to, if it is set and not empty. -/
def outcome? (x : Variable) (env : Environment) : Option (Except Fault Value) :=
  (held? env x).map x.read

/-- The value that a variable gives to its setting, if it is set and can be read. -/
def value? (x : Variable) (env : Environment) : Option Value :=
  match x.outcome? env with
  | some (.ok v) => some v
  | _ => none

/-- What a variable fails with that is set and cannot be read. -/
def refusal? (x : Variable) (env : Environment) : Option Fault :=
  match x.outcome? env with
  | some (.error f) => some f
  | _ => none

end Variable

/-- What the first variable that cannot be read fails with. -/
def refusal? (env : Environment) (xs : List Variable) : Option Fault :=
  xs.findSome? fun x => x.refusal? env

/-- The settings that variables set, those that cannot be read left out. -/
def heldValues (env : Environment) (xs : List Variable) : List (String × Value) :=
  xs.filterMap fun x => (x.value? env).map (x.setting, ·)

section

variable {env env' : Environment} {xs : List Variable} {x : Variable}

theorem refusal?_cons (env : Environment) (x : Variable) (rest : List Variable) :
    refusal? env (x :: rest) = (x.refusal? env).or (refusal? env rest) := by
  rw [refusal?, List.findSome?_cons, refusal?]
  cases x.refusal? env <;> rfl

theorem heldValues_cons (env : Environment) (x : Variable) (rest : List Variable) :
    heldValues env (x :: rest) = match x.value? env with
      | some v => (x.setting, v) :: heldValues env rest
      | none => heldValues env rest := by
  rw [heldValues, List.filterMap_cons, heldValues]
  cases x.value? env <;> rfl

theorem Variable.value?_congr (h : held? env x = held? env' x) : x.value? env = x.value? env' := by
  rw [value?, value?, outcome?, outcome?, h]

theorem Variable.refusal?_congr (h : held? env x = held? env' x) :
    x.refusal? env = x.refusal? env' := by
  rw [refusal?, refusal?, outcome?, outcome?, h]

theorem readVariables_cons (env : Environment) (x : Variable) (rest : List Variable) :
    readVariables env (x :: rest) = match x.outcome? env with
      | none => readVariables env rest
      | some r => r >>= fun v => readVariables env rest >>= fun others =>
          .ok ((x.setting, v) :: others) := by
  rw [readVariables, Variable.outcome?, held?]
  cases env.lookup x.name with
  | none => rfl
  | some held =>
    cases htrue : held.isTrue with
    | false => simp [Option.filter_some, htrue]
    | true =>
      simp only [Option.filter_some, htrue, if_true, Option.map_some]
      rfl

/-- Reading variables fails with the first refusal, or gives the values of those that are set. -/
theorem readVariables_eq (env : Environment) (xs : List Variable) :
    readVariables env xs = match refusal? env xs with
      | some f => .error f
      | none => .ok (heldValues env xs) := by
  induction xs with
  | nil => rfl
  | cons x xs ih =>
    rw [readVariables_cons, ih, refusal?_cons, heldValues_cons, Variable.refusal?, Variable.value?]
    cases x.outcome? env with
    | none => rfl
    | some r =>
      cases r with
      | error f => rfl
      | ok v => cases refusal? env xs <;> rfl

theorem refusal?_congr (h : ∀ x ∈ xs, x.refusal? env = x.refusal? env') :
    refusal? env xs = refusal? env' xs := by
  induction xs with
  | nil => rfl
  | cons x xs ih =>
    obtain ⟨hx, hrest⟩ := List.forall_mem_cons.1 h
    rw [refusal?_cons, refusal?_cons, hx, ih hrest]

theorem map_fst_heldValues_sublist (env : Environment) (xs : List Variable) :
    ((heldValues env xs).map Prod.fst).Sublist (xs.map Variable.setting) := by
  induction xs with
  | nil => exact List.Sublist.refl _
  | cons x xs ih =>
    rw [heldValues_cons]
    cases x.value? env with
    | none => exact ih.cons _
    | some v => exact ih.cons_cons _

theorem lookup_heldValues (hxs : (xs.map Variable.setting).Nodup) (hx : x ∈ xs) :
    (heldValues env xs).lookup x.setting = x.value? env := by
  induction xs with
  | nil => cases hx
  | cons y xs ih =>
    obtain ⟨hy, hrest⟩ := List.nodup_cons.1 hxs
    rw [heldValues_cons]
    obtain rfl | hx := List.mem_cons.1 hx
    · have hnone : (heldValues env xs).lookup x.setting = none := by
        apply Value.lookup_eq_none_of_notMem
        intro hmem
        exact hy ((map_fst_heldValues_sublist env xs).subset hmem)
      cases x.value? env with
      | none => exact hnone
      | some v => simp
    · have hne : x.setting ≠ y.setting := fun heq => hy (heq ▸ List.mem_map_of_mem hx)
      have htail := ih hrest hx
      cases y.value? env with
      | none => exact htail
      | some v => simpa [Value.lookup_cons_eq, hne] using htail

theorem nodup_setting : (environmentVariables.map Variable.setting).Nodup := by decide

theorem setting_mem_names (hx : x ∈ environmentVariables) : x.setting ∈ names := by
  have hsettings : ∀ name ∈ environmentVariables.map Variable.setting, name ∈ names := by decide
  exact hsettings _ (List.mem_map_of_mem hx)

theorem nodup_heldValues (env : Environment) :
    ((heldValues env environmentVariables).map Prod.fst).Nodup :=
  nodup_setting.sublist (map_fst_heldValues_sublist env _)

theorem checkNames_heldValues (env : Environment) :
    Reading.checkNames "ServerConfig.__init__" ["self"] names (heldValues env environmentVariables) =
      .ok () := by
  have hsettings : ∀ name ∈ environmentVariables.map Variable.setting,
      name ∉ ["self"] ∧ name ∈ names := by decide
  rw [Reading.checkNames_eq_ok_iff]
  intro name hname
  exact hsettings name ((map_fst_heldValues_sublist env _).subset hname)

end

section

variable (env : Environment) (overrides : List (String × Value))

/-- The values of the environment with the overrides over them. -/
def layered : List (String × Value) := override (heldValues env environmentVariables) overrides

theorem fromEnvironment_eq : fromEnvironment env overrides =
    Reading.checkOwn "ServerConfig.from_env" ["cls", "environ"] overrides >>= fun _ =>
      match refusal? env environmentVariables with
      | some f => .error f
      | none => ofFields (layered env overrides) := by
  unfold fromEnvironment
  rw [readVariables_eq]
  cases refusal? env environmentVariables <;> rfl

theorem nodup_layered : ((layered env overrides).map Prod.fst).Nodup :=
  nodup_override (nodup_heldValues env)

variable {env overrides} {env' : Environment} {x : Variable} {s : Settings}

theorem lookup_layered (hx : x ∈ environmentVariables) :
    (layered env overrides).lookup x.setting = (given? overrides x.setting).or (x.value? env) := by
  rw [layered, lookup_override, lookup_heldValues nodup_setting hx]

/-- Environments that agree in the variables that are not overridden look the same under the
overrides. -/
theorem ofFields_layered_congr
    (h : ∀ x ∈ environmentVariables, given? overrides x.setting = none → held? env x = held? env' x) :
    ofFields (layered env overrides) = ofFields (layered env' overrides) := by
  apply ofFields_congr (nodup_layered env overrides) (nodup_layered env' overrides)
  · apply checkNames_override
    rw [checkNames_heldValues, checkNames_heldValues]
  · intro name _
    by_cases hname : name ∈ environmentVariables.map Variable.setting
    · obtain ⟨x, hx, rfl⟩ := List.mem_map.1 hname
      rw [lookup_layered hx, lookup_layered hx]
      cases hgiven : given? overrides x.setting with
      | some v => rfl
      | none => rw [Variable.value?_congr (h x hx hgiven)]
    · have hnone : ∀ env, (heldValues env environmentVariables).lookup name = none := by
        intro env
        apply Value.lookup_eq_none_of_notMem
        intro hmem
        exact hname ((map_fst_heldValues_sublist env _).subset hmem)
      rw [layered, layered, lookup_override, lookup_override, hnone, hnone]

/-- Overrides of settings that there are, with a style that can be read. -/
structure Usable (overrides : List (String × Value)) : Prop where
  named : ∀ kv ∈ overrides, kv.1 ∈ names
  styled : ∀ v, given? overrides "output_format" = some v → ∃ f, Reading.format v = .ok f

theorem Usable.checkOwn (h : Usable overrides) :
    Reading.checkOwn "ServerConfig.from_env" ["cls", "environ"] overrides = .ok () := by
  have hown : overrides.find? (fun kv => ["cls", "environ"].contains kv.1) = none := by
    rw [List.find?_eq_none]
    intro kv hkv howned
    have hname := h.named kv hkv
    obtain hcls | henviron : kv.1 = "cls" ∨ kv.1 = "environ" := by simpa using howned
    · rw [hcls] at hname
      exact absurd hname (by decide)
    · rw [henviron] at hname
      exact absurd hname (by decide)
  rw [Reading.checkOwn, hown]

theorem Usable.checkNames (h : Usable overrides) (env : Environment) :
    Reading.checkNames "ServerConfig.__init__" ["self"] names (layered env overrides) = .ok () := by
  rw [Reading.checkNames_eq_ok_iff]
  intro name hname
  obtain hheld | hgiven := mem_override hname
  · exact Reading.checkNames_eq_ok_iff.1 (checkNames_heldValues env) name hheld
  · obtain ⟨kv, hkv, rfl⟩ := List.mem_map.1 hgiven
    have hmem := h.named kv hkv
    refine ⟨?_, hmem⟩
    intro hself
    rw [List.mem_singleton.1 hself] at hmem
    exact absurd hmem (by decide)

/-- What the environment gives to a setting is kept as it was read. -/
theorem stored_of_read (hx : x ∈ environmentVariables) {held v : Value} (h : x.read held = .ok v) :
    stored x.setting v = .ok v := by
  have hstyle : ∀ y ∈ environmentVariables, y.setting = "output_format" →
      y.read = fun v => (Reading.format v).map .format := by
    simp [environmentVariables, textVariable, numberVariable]
  by_cases hx' : x.setting = "output_format"
  · rw [hstyle x hx hx'] at h
    obtain ⟨f, -, rfl⟩ := map_eq_ok.1 h
    rw [stored, if_pos hx']
    rfl
  · rw [stored, if_neg hx']

theorem value?_eq_some_iff {v : Value} : x.value? env = some v ↔
    ∃ held, held? env x = some held ∧ x.read held = .ok v := by
  rw [Variable.value?, Variable.outcome?]
  cases held? env x with
  | none => simp
  | some held => cases hread : x.read held <;> simp [hread]

theorem value?_eq_none_iff (h : refusal? env environmentVariables = none)
    (hx : x ∈ environmentVariables) : x.value? env = none ↔ held? env x = none := by
  have hread : x.refusal? env = none := List.findSome?_eq_none_iff.1 h x hx
  rw [Variable.refusal?, Variable.outcome?] at hread
  rw [Variable.value?, Variable.outcome?]
  cases hheld : held? env x with
  | none => simp
  | some held => cases hv : x.read held <;> simp [hheld, hv] at hread ⊢

/-- With usable overrides the settings are made as soon as the environment could be read. -/
theorem Usable.ofFields (h : Usable overrides) (env : Environment) :
    ∃ s, ofFields (layered env overrides) = .ok s := by
  obtain ⟨x, hx, hname⟩ : ∃ x ∈ environmentVariables, x.setting = "output_format" :=
    List.mem_map.1 (by decide)
  have hlookup : (layered env overrides).lookup x.setting =
      (given? overrides x.setting).or (x.value? env) := lookup_layered hx
  rw [hname] at hlookup
  have hstyle : ∃ f,
      Reading.format (((layered env overrides).lookup "output_format").getD .null) = .ok f := by
    rw [hlookup]
    cases hgiven : given? overrides "output_format" with
    | some v => exact h.styled v hgiven
    | none =>
      cases hv : x.value? env with
      | none => exact ⟨.slashTags, rfl⟩
      | some v =>
        obtain ⟨held, -, hread⟩ := value?_eq_some_iff.1 hv
        have hstored := stored_of_read hx hread
        rw [hname, stored, if_pos rfl] at hstored
        cases hf : Reading.format v with
        | ok f => exact ⟨f, hf⟩
        | error g => simp [hf, Except.map] at hstored
  obtain ⟨f, hf⟩ := hstyle
  rw [ofFields_eq, h.checkNames env, hf]
  exact ⟨_, rfl⟩

/-- Where the value of a setting comes from that the environment has a variable for: from the overrides,
else from its variable if that is set and not empty, else it is the default. -/
inductive Origin (env : Environment) (overrides : List (String × Value)) (x : Variable) (w : Value) :
    Prop where
  | overridden {v : Value} (h : given? overrides x.setting = some v) (hw : stored x.setting v = .ok w)
  | read {held : Value} (h : given? overrides x.setting = none) (hheld : held? env x = some held)
      (hw : x.read held = .ok w)
  | standard (h : given? overrides x.setting = none) (hheld : held? env x = none)
      (hw : ({} : Settings).fields.lookup x.setting = some w)

theorem origin_of_fromEnvironment (h : fromEnvironment env overrides = .ok s)
    (hx : x ∈ environmentVariables) :
    ∃ w, s.fields.lookup x.setting = some w ∧ Origin env overrides x w := by
  rw [fromEnvironment_eq, bind_eq_ok] at h
  obtain ⟨_, -, h⟩ := h
  cases hrefusal : refusal? env environmentVariables with
  | some f => simp [hrefusal] at h
  | none =>
    rw [hrefusal] at h
    have hfield := lookup_of_ofFields h (nodup_layered env overrides) (setting_mem_names hx)
    rw [lookup_layered hx] at hfield
    cases hgiven : given? overrides x.setting with
    | some v =>
      rw [hgiven] at hfield
      obtain ⟨w, hstored, hlookup⟩ := hfield
      exact ⟨w, hlookup, .overridden hgiven hstored⟩
    | none =>
      rw [hgiven] at hfield
      cases hv : x.value? env with
      | some v =>
        rw [hv] at hfield
        obtain ⟨w, hstored, hlookup⟩ := hfield
        obtain ⟨held, hheld, hread⟩ := value?_eq_some_iff.1 hv
        have hkept := stored_of_read hx hread
        obtain rfl := Except.ok.inj (hstored.symm.trans hkept)
        exact ⟨w, hlookup, .read hgiven hheld hread⟩
      | none =>
        rw [hv] at hfield
        have hdefault : ∀ name ∈ names, (({} : Settings).fields.lookup name).isSome = true := by
          decide
        obtain ⟨w, hw⟩ := Option.isSome_iff_exists.1 (hdefault _ (setting_mem_names hx))
        exact ⟨w, hfield.trans hw, .standard hgiven ((value?_eq_none_iff hrefusal hx).1 hv) hw⟩

/-- What has no variable and is not overridden has its default. -/
theorem lookup_of_fromEnvironment {name : String} (h : fromEnvironment env overrides = .ok s)
    (hname : name ∈ names) (hgiven : given? overrides name = none)
    (hsetting : name ∉ environmentVariables.map Variable.setting) :
    s.fields.lookup name = ({} : Settings).fields.lookup name := by
  rw [fromEnvironment_eq, bind_eq_ok] at h
  obtain ⟨_, -, h⟩ := h
  cases hrefusal : refusal? env environmentVariables with
  | some f => simp [hrefusal] at h
  | none =>
    rw [hrefusal] at h
    have hfield := lookup_of_ofFields h (nodup_layered env overrides) hname
    have hnone : (heldValues env environmentVariables).lookup name = none := by
      apply Value.lookup_eq_none_of_notMem
      intro hmem
      exact hsetting ((map_fst_heldValues_sublist env _).subset hmem)
    rw [layered, lookup_override, hgiven, hnone] at hfield
    exact hfield

/-- Two environments that differ only in variables that are overridden come to the same, just when the
first variable that cannot be read fails alike in both, if any does. -/
theorem fromEnvironment_overridden (env env' : Environment) (overrides : List (String × Value))
    (hagree : ∀ x ∈ environmentVariables, given? overrides x.setting = none →
      held? env x = held? env' x) :
    (refusal? env environmentVariables = refusal? env' environmentVariables →
      fromEnvironment env overrides = fromEnvironment env' overrides) ∧
    (Usable overrides → fromEnvironment env overrides = fromEnvironment env' overrides →
      refusal? env environmentVariables = refusal? env' environmentVariables) ∧
    ((∀ x ∈ environmentVariables, given? overrides x.setting ≠ none →
        x.refusal? env = none ∧ x.refusal? env' = none) →
      fromEnvironment env overrides = fromEnvironment env' overrides) ∧
    ∀ s, fromEnvironment env overrides = .ok s → ∀ x ∈ environmentVariables,
      ∃ w, s.fields.lookup x.setting = some w ∧ Origin env overrides x w := by
  have hsame := ofFields_layered_congr hagree
  have halike : refusal? env environmentVariables = refusal? env' environmentVariables →
      fromEnvironment env overrides = fromEnvironment env' overrides := by
    intro hrefusal
    rw [fromEnvironment_eq, fromEnvironment_eq, hrefusal, hsame]
  refine ⟨halike, ?_, ?_, fun s h x hx => origin_of_fromEnvironment h hx⟩
  · intro husable heq
    obtain ⟨s, hs⟩ := husable.ofFields env
    obtain ⟨s', hs'⟩ := husable.ofFields env'
    rw [fromEnvironment_eq, fromEnvironment_eq, husable.checkOwn, hs, hs'] at heq
    cases hf : refusal? env environmentVariables with
    | none =>
      cases hf' : refusal? env' environmentVariables with
      | none => rfl
      | some g =>
        rw [hf, hf'] at heq
        cases heq
    | some f =>
      cases hf' : refusal? env' environmentVariables with
      | none =>
        rw [hf, hf'] at heq
        cases heq
      | some g =>
        rw [hf, hf'] at heq
        exact congrArg some (Except.error.inj heq)
  · intro hreadable
    apply halike
    apply refusal?_congr
    intro x hx
    cases hgiven : given? overrides x.setting with
    | none => exact Variable.refusal?_congr (hagree x hx hgiven)
    | some v =>
      obtain ⟨hnone, hnone'⟩ := hreadable x hx (by simp [hgiven])
      rw [hnone, hnone']

/-- A port that is overridden, and a charset that is not. -/
theorem fromEnvironment_overridden_port :
    let env : Environment := [("TAGGER_PORT", .text "80"), ("TAGGER_ENCODING", .text "ascii")]
    let env' : Environment := [("TAGGER_ENCODING", .text "ascii")]
    fromEnvironment env [("port", .int 9191)] = fromEnvironment env' [("port", .int 9191)] := by
  intro env env'
  have hagree : ∀ x ∈ environmentVariables, given? [("port", .int 9191)] x.setting = none →
      held? env x = held? env' x := by
    have hport : ∀ x ∈ environmentVariables, x.name = "TAGGER_PORT" → x.setting = "port" := by
      simp [environmentVariables, textVariable, numberVariable]
    intro x hx hgiven
    have hne : x.name ≠ "TAGGER_PORT" := by
      intro hname
      rw [hport x hx hname] at hgiven
      cases hgiven
    rw [held?, held?, Value.lookup_cons_eq, if_neg hne]
  exact (fromEnvironment_overridden env env' [("port", .int 9191)] hagree).1 rfl

/-- A variable that holds no port is refused, although the port is overridden. -/
theorem fromEnvironment_refuses_overridden :
    fromEnvironment [("TAGGER_PORT", .text "abc")] [("port", .int 9191)] =
      .error (.config (.portNotNumeric (.text "abc"))) ∧
    fromEnvironment [] [("port", .int 9191)] = .ok { port := .int 9191 } := ⟨rfl, rfl⟩

end

end LineTagger.Settings
