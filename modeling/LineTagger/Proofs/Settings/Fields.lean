import LineTagger.Settings

/-!
Settings as named values. Values under distinct names are looked up and put over one another; settings
that are made of named values hold under each name the value that is found there, or the default.
-/

namespace LineTagger

namespace Value

variable {kvs : List (String × Value)} {k name : String} {v : Value}

theorem any_fst_iff : kvs.any (·.1 = k) = true ↔ k ∈ kvs.map Prod.fst := by
  simp [List.any_eq_true, List.mem_map]

theorem map_fst_replaced (kvs : List (String × Value)) (k : String) (v : Value) :
    (kvs.map fun kv => if kv.1 = k then (k, v) else kv).map Prod.fst = kvs.map Prod.fst := by
  rw [List.map_map]
  apply List.map_congr_left
  intro kv _
  by_cases hk : kv.1 = k <;> simp [hk]

theorem lookup_eq_none_of_notMem (h : name ∉ kvs.map Prod.fst) : kvs.lookup name = none := by
  rw [List.lookup_eq_none_iff]
  intro kv hkv
  have hne : name ≠ kv.1 := fun heq => h (heq ▸ List.mem_map_of_mem hkv)
  simpa using hne

theorem lookup_cons_eq (name k : String) (v : Value) (kvs : List (String × Value)) :
    ((k, v) :: kvs).lookup name = if name = k then some v else kvs.lookup name := by
  rw [List.lookup_cons]
  by_cases hname : name = k
  · simp [hname]
  · simp [beq_false_of_ne hname, hname]

theorem lookup_replaced (h : k ∈ kvs.map Prod.fst) :
    (kvs.map fun kv => if kv.1 = k then (k, v) else kv).lookup name =
      if name = k then some v else kvs.lookup name := by
  have hother : ∀ xs : List (String × Value), name ≠ k →
      (xs.map fun kv => if kv.1 = k then (k, v) else kv).lookup name = xs.lookup name := by
    intro xs hname
    induction xs with
    | nil => rfl
    | cons kv xs ih =>
      rw [List.map_cons, lookup_cons_eq, ih, lookup_cons_eq]
      by_cases hk : kv.1 = k
      · rw [if_pos hk, hk, if_neg hname, if_neg hname]
      · rw [if_neg hk]
  by_cases hname : name = k
  · subst hname
    rw [if_pos rfl]
    induction kvs with
    | nil => simp at h
    | cons kv kvs ih =>
      rw [List.map_cons]
      by_cases hk : kv.1 = name
      · rw [if_pos hk, lookup_cons_eq, if_pos rfl]
      · have hrest : name ∈ kvs.map Prod.fst := by simpa [Ne.symm hk] using h
        rw [if_neg hk, lookup_cons_eq, if_neg (Ne.symm hk)]
        exact ih hrest
  · rw [if_neg hname]
    exact hother kvs hname

/-- What is put under a key is found there, and nothing changes under the others. -/
theorem lookup_put (kvs : List (String × Value)) (k : String) (v : Value) (name : String) :
    (put kvs k v).lookup name = if name = k then some v else kvs.lookup name := by
  unfold put
  by_cases hmem : k ∈ kvs.map Prod.fst
  · rw [if_pos (any_fst_iff.2 hmem)]
    exact lookup_replaced hmem
  · rw [if_neg (mt any_fst_iff.1 hmem), List.lookup_append, lookup_cons_eq]
    by_cases hname : name = k
    · rw [if_pos hname, if_pos hname, hname, lookup_eq_none_of_notMem hmem]
      rfl
    · rw [if_neg hname, if_neg hname]
      exact Option.or_none

theorem map_fst_put (kvs : List (String × Value)) (k : String) (v : Value) :
    (put kvs k v).map Prod.fst =
      if k ∈ kvs.map Prod.fst then kvs.map Prod.fst else kvs.map Prod.fst ++ [k] := by
  unfold put
  by_cases hmem : k ∈ kvs.map Prod.fst
  · rw [if_pos (any_fst_iff.2 hmem), if_pos hmem, map_fst_replaced]
  · rw [if_neg (mt any_fst_iff.1 hmem), if_neg hmem, List.map_append]
    rfl

theorem nodup_put (h : (kvs.map Prod.fst).Nodup) : ((put kvs k v).map Prod.fst).Nodup := by
  rw [map_fst_put]
  split
  · exact h
  · next hmem =>
    rw [List.nodup_append]
    refine ⟨h, by simp, ?_⟩
    intro key hkey last hlast heq
    rw [List.mem_singleton.1 hlast] at heq
    exact hmem (heq ▸ hkey)

end Value

namespace Reading

variable {callee : String} {own names : List String} {kvs : List (String × Value)}

theorem checkNames_eq_ok_iff : checkNames callee own names kvs = .ok () ↔
    ∀ name ∈ kvs.map Prod.fst, name ∉ own ∧ name ∈ names := by
  induction kvs with
  | nil => simp [checkNames]
  | cons kv kvs ih =>
    obtain ⟨name, v⟩ := kv
    rw [List.map_cons, List.forall_mem_cons, ← ih, checkNames]
    by_cases hown : name ∈ own
    · simp [hown]
    · by_cases hname : name ∈ names <;> simp [hown, hname]

theorem checkNames_append (xs ys : List (String × Value)) :
    checkNames callee own names (xs ++ ys) =
      checkNames callee own names xs >>= fun _ => checkNames callee own names ys := by
  induction xs with
  | nil => rfl
  | cons kv xs ih =>
    obtain ⟨name, v⟩ := kv
    rw [List.cons_append, checkNames, checkNames, ih]
    split
    · rfl
    · split <;> rfl

theorem checkNames_map {f : String × Value → String × Value} (h : ∀ kv, (f kv).1 = kv.1) :
    checkNames callee own names (kvs.map f) = checkNames callee own names kvs := by
  induction kvs with
  | nil => rfl
  | cons kv kvs ih => simp only [List.map_cons, checkNames, h, ih]

/-- A value that is put under a key is checked after those that are there. -/
theorem checkNames_put (kvs : List (String × Value)) (k : String) (v : Value) :
    checkNames callee own names (Value.put kvs k v) =
      checkNames callee own names kvs >>= fun _ => checkNames callee own names [(k, v)] := by
  unfold Value.put
  by_cases hmem : k ∈ kvs.map Prod.fst
  · have hkeys : ∀ kv : String × Value, (if kv.1 = k then (k, v) else kv).1 = kv.1 := by
      intro kv
      by_cases hk : kv.1 = k <;> simp [hk]
    rw [if_pos (Value.any_fst_iff.2 hmem), checkNames_map hkeys]
    cases hkvs : checkNames callee own names kvs with
    | error f => rfl
    | ok _ =>
      have hk := checkNames_eq_ok_iff.1 hkvs k hmem
      have hsingle : checkNames callee own names [(k, v)] = .ok () :=
        checkNames_eq_ok_iff.2 (by simpa using hk)
      exact hsingle.symm
  · rw [if_neg (mt Value.any_fst_iff.1 hmem), checkNames_append]

end Reading

namespace Settings

/-- The value that overrides give to a name: the last one that is not null. -/
def given? : List (String × Value) → String → Option Value
  | [], _ => none
  | (k, v) :: rest, name => (given? rest name).or (if name = k ∧ v.isNull = false then some v else none)

section

variable {kvs kvs' others : List (String × Value)}

theorem override_cons (kvs : List (String × Value)) (k : String) (v : Value)
    (rest : List (String × Value)) :
    override kvs ((k, v) :: rest) = override (if v.isNull then kvs else Value.put kvs k v) rest := by
  cases v <;> rfl

/-- Over other values lie those that are given. -/
theorem lookup_override (kvs others : List (String × Value)) (name : String) :
    (override kvs others).lookup name = (given? others name).or (kvs.lookup name) := by
  induction others generalizing kvs with
  | nil => rfl
  | cons kv others ih =>
    obtain ⟨k, v⟩ := kv
    rw [override_cons, ih, given?, Option.or_assoc]
    congr 1
    cases hv : v.isNull with
    | true => simp
    | false =>
      rw [if_neg Bool.false_ne_true, Value.lookup_put]
      by_cases hname : name = k <;> simp [hname]

theorem nodup_override (h : (kvs.map Prod.fst).Nodup) :
    ((override kvs others).map Prod.fst).Nodup := by
  induction others generalizing kvs with
  | nil => exact h
  | cons kv others ih =>
    rw [override_cons]
    split
    · exact ih h
    · exact ih (Value.nodup_put h)

/-- Of the values that are overridden it only matters what is wrong with their names. -/
theorem checkNames_override {callee : String} {own names : List String}
    (h : Reading.checkNames callee own names kvs = Reading.checkNames callee own names kvs') :
    Reading.checkNames callee own names (override kvs others) =
      Reading.checkNames callee own names (override kvs' others) := by
  induction others generalizing kvs kvs' with
  | nil => exact h
  | cons kv others ih =>
    rw [override_cons, override_cons]
    split
    · exact ih h
    · apply ih
      rw [Reading.checkNames_put, Reading.checkNames_put, h]

theorem mem_override {name : String} (h : name ∈ (override kvs others).map Prod.fst) :
    name ∈ kvs.map Prod.fst ∨ name ∈ others.map Prod.fst := by
  induction others generalizing kvs with
  | nil => exact .inl h
  | cons kv others ih =>
    obtain ⟨k, v⟩ := kv
    rw [override_cons] at h
    obtain hkvs | hothers := ih h
    · split at hkvs
      · exact .inl hkvs
      · rw [Value.map_fst_put] at hkvs
        split at hkvs
        · exact .inl hkvs
        · obtain hkvs | hk := List.mem_append.1 hkvs
          · exact .inl hkvs
          · exact .inr (List.mem_cons.2 (.inl (List.mem_singleton.1 hk)))
    · exact .inr (List.mem_cons_of_mem _ hothers)

end

section

variable {s t : Settings} {k name : String} {v : Value}

/-- The names of settings other than the style, which is set apart. -/
def IsPlain (name : String) : Prop := name ∈ names ∧ name ≠ "output_format"

instance (name : String) : Decidable (IsPlain name) :=
  inferInstanceAs (Decidable (name ∈ names ∧ name ≠ "output_format"))

theorem fields_assign (s : Settings) (hk : IsPlain k) (v : Value) :
    (s.assign k v).fields = Value.put s.fields k v := by
  obtain ⟨hmem, hne⟩ := hk
  simp only [names, fields, List.map_cons, List.map_nil, List.mem_cons, List.not_mem_nil, or_false]
    at hmem
  obtain rfl | rfl | rfl | rfl | rfl | rfl | rfl | rfl | rfl | rfl | rfl | rfl := hmem
  all_goals first | rfl | exact absurd rfl hne

theorem assign_of_not_isPlain (hk : ¬IsPlain k) (s : Settings) (v : Value) : s.assign k v = s := by
  unfold assign
  split
  all_goals first | rfl | exact absurd ⟨by decide, by decide⟩ hk

theorem outputFormat_assign (s : Settings) (k : String) (v : Value) :
    (s.assign k v).outputFormat = s.outputFormat := by
  unfold assign
  split <;> rfl

theorem lookup_assign (s : Settings) (k : String) (v : Value) (hname : IsPlain name) :
    (s.assign k v).fields.lookup name = if name = k then some v else s.fields.lookup name := by
  by_cases hk : IsPlain k
  · rw [fields_assign s hk, Value.lookup_put]
  · have hne : name ≠ k := by
      rintro rfl
      exact hk hname
    rw [assign_of_not_isPlain hk, if_neg hne]

/-- The settings with each of these values in its place. -/
def assignAll (s : Settings) (kvs : List (String × Value)) : Settings :=
  kvs.foldl (fun s kv => s.assign kv.1 kv.2) s

theorem outputFormat_assignAll (s : Settings) (kvs : List (String × Value)) :
    (s.assignAll kvs).outputFormat = s.outputFormat := by
  induction kvs generalizing s with
  | nil => rfl
  | cons kv kvs ih => exact (ih (s.assign kv.1 kv.2)).trans (outputFormat_assign s kv.1 kv.2)

theorem lookup_assignAll {kvs : List (String × Value)} (h : (kvs.map Prod.fst).Nodup) (s : Settings)
    (hname : IsPlain name) :
    (s.assignAll kvs).fields.lookup name = (kvs.lookup name).or (s.fields.lookup name) := by
  induction kvs generalizing s with
  | nil => rfl
  | cons kv kvs ih =>
    obtain ⟨k, v⟩ := kv
    obtain ⟨hk, hrest⟩ := List.nodup_cons.1 h
    have htail := ih hrest (s.assign k v)
    rw [lookup_assign s k v hname] at htail
    rw [assignAll, List.foldl_cons, ← assignAll, htail, Value.lookup_cons_eq]
    by_cases hne : name = k
    · subst hne
      rw [if_pos rfl, if_pos rfl, Value.lookup_eq_none_of_notMem hk]
      rfl
    · rw [if_neg hne, if_neg hne]

/-- Settings that hold the same under every name are the same. -/
theorem ext_fields (hformat : s.outputFormat = t.outputFormat)
    (h : ∀ name, IsPlain name → s.fields.lookup name = t.fields.lookup name) : s = t := by
  have hport : s.port = t.port := Option.some.inj (h "port" (by decide))
  have hhost : s.host = t.host := Option.some.inj (h "host" (by decide))
  have hbacklog : s.backlog = t.backlog := Option.some.inj (h "backlog" (by decide))
  have hbuffer : s.bufferSize = t.bufferSize := Option.some.inj (h "buffer_size" (by decide))
  have hpoll : s.acceptPollInterval = t.acceptPollInterval :=
    Option.some.inj (h "accept_poll_interval" (by decide))
  have hcharset : s.charset = t.charset := Option.some.inj (h "charset" (by decide))
  have hmax : s.maxLineBytes = t.maxLineBytes := Option.some.inj (h "max_line_bytes" (by decide))
  have hspacing : s.preserveSpacing = t.preserveSpacing :=
    Option.some.inj (h "preserve_spacing" (by decide))
  have htimeout : s.readTimeout = t.readTimeout := Option.some.inj (h "read_timeout" (by decide))
  have hsessions : s.maxSessions = t.maxSessions := Option.some.inj (h "max_sessions" (by decide))
  have hlevel : s.logLevel = t.logLevel := Option.some.inj (h "log_level" (by decide))
  cases s
  cases t
  simp_all

theorem lookup_style (s : Settings) (f : OutputFormat) (hname : name ≠ "output_format") :
    ({ s with outputFormat := f } : Settings).fields.lookup name = s.fields.lookup name := by
  have hput : ({ s with outputFormat := f } : Settings).fields =
      Value.put s.fields "output_format" (.format f) := rfl
  rw [hput, Value.lookup_put, if_neg hname]

/-- A value as settings keep it under a name: a style is read, all else is kept as it is. -/
def stored (name : String) (v : Value) : Except Fault Value :=
  if name = "output_format" then (Reading.format v).map .format else .ok v

variable {kvs kvs' : List (String × Value)}

theorem ofFields_eq (kvs : List (String × Value)) :
    ofFields kvs = Reading.checkNames "ServerConfig.__init__" ["self"] names kvs >>= fun _ =>
      Reading.format ((kvs.lookup "output_format").getD .null) >>= fun f =>
        .ok (({ outputFormat := f } : Settings).assignAll kvs) := rfl

/-- Settings hold under each name what was found under it, or the default. -/
theorem lookup_of_ofFields (h : ofFields kvs = .ok s) (hkeys : (kvs.map Prod.fst).Nodup)
    (hname : name ∈ names) :
    match kvs.lookup name with
    | some v => ∃ w, stored name v = .ok w ∧ s.fields.lookup name = some w
    | none => s.fields.lookup name = ({} : Settings).fields.lookup name := by
  rw [ofFields_eq, bind_eq_ok] at h
  obtain ⟨_, -, h⟩ := h
  obtain ⟨f, hformat, h⟩ := bind_eq_ok.1 h
  obtain rfl := Except.ok.inj h
  by_cases hstyle : name = "output_format"
  · subst hstyle
    have hkept : (assignAll { outputFormat := f } kvs).fields.lookup "output_format" =
        some (.format f) :=
      congrArg (some ∘ Value.format) (outputFormat_assignAll _ kvs)
    cases hv : kvs.lookup "output_format" with
    | none =>
      rw [hv] at hformat
      rw [hkept, ← Except.ok.inj hformat]
      rfl
    | some v =>
      rw [hv] at hformat
      have hread : Reading.format v = .ok f := hformat
      refine ⟨.format f, ?_, hkept⟩
      rw [stored, if_pos rfl, hread]
      rfl
  · have hlookup := lookup_assignAll hkeys { outputFormat := f } ⟨hname, hstyle⟩
    cases hv : kvs.lookup name with
    | none =>
      rw [hv] at hlookup
      exact hlookup.trans (lookup_style {} f hstyle)
    | some v =>
      rw [hv] at hlookup
      exact ⟨v, by rw [stored, if_neg hstyle], hlookup⟩

/-- Values that agree under every name, and have the same wrong names, make the same settings. -/
theorem ofFields_congr (hkeys : (kvs.map Prod.fst).Nodup) (hkeys' : (kvs'.map Prod.fst).Nodup)
    (hnames : Reading.checkNames "ServerConfig.__init__" ["self"] names kvs =
      Reading.checkNames "ServerConfig.__init__" ["self"] names kvs')
    (hlookup : ∀ name ∈ names, kvs.lookup name = kvs'.lookup name) :
    ofFields kvs = ofFields kvs' := by
  have hall : ∀ f : OutputFormat, assignAll { outputFormat := f } kvs =
      assignAll { outputFormat := f } kvs' := by
    intro f
    apply ext_fields
    · rw [outputFormat_assignAll, outputFormat_assignAll]
    · intro name hname
      rw [lookup_assignAll hkeys _ hname, lookup_assignAll hkeys' _ hname, hlookup name hname.1]
  have hstyle := hlookup "output_format" (by decide)
  simp only [ofFields_eq, hnames, hstyle, hall]

end

end Settings

end LineTagger
