import LineTagger.Model
import LineTagger.Proofs.Charset.Refusal
import LineTagger.Proofs.Charset.Utf8
import LineTagger.Proofs.Json.Reading

/-!
Which files are models. A file that is none is refused as a model, unless its bytes are not UTF-8, or arrays and
objects in it are nested deeper than the reader goes.
-/

namespace LineTagger

/-- A path of one short name. -/
theorem Path.ofString_m : Path.ofString "m" = ⟨"", ["m"]⟩ := by
  have hsplit : "m".splitOn "/" = ["m"] := by
    rw [String.splitOn, if_neg (by decide), String.splitOnAux, if_neg (by decide),
      if_neg (by decide), String.splitOnAux, if_pos (by decide)]
    decide
  rw [Path.ofString, hsplit]
  decide

namespace Folder

variable {d : Folder} {p : Path} {f : Fault}

theorem isSystem_of_follow {place : Option (List String)} {names : List String}
    (h : d.follow p place names = .error f) : f.isSystem = true := by
  -- on the names; where none of them is refused the rest is followed
  fun_induction d.follow p place names
  case case1 => cases h
  case case3 ih | case8 ih | case9 ih | case11 ih => exact ih h
  all_goals
    cases h
    rfl

theorem read_of_null (h : '\x00' ∈ p.text.toList) : d.read p = .error (.value [.text "embedded null byte"]) := by
  rw [read, if_pos (by simpa using h)]

/-- What keeps a path from being read is told by the system. -/
theorem isSystem_of_read (hnull : '\x00' ∉ p.text.toList) (h : d.read p = .error f) : f.isSystem = true := by
  rw [read, if_neg (by simpa using hnull)] at h
  split at h
  · cases h
    rfl
  · split at h
    · next hfollow =>
      cases h
      exact isSystem_of_follow hfollow
    · cases h
      rfl
    · split at h
      · cases h
      · cases h
        rfl
      · cases h
        rfl

end Folder

namespace Model

variable {d : Folder} {p : Path} {f : Fault} {g : Gazetteer} {source name : String} {v : Value}
  {kvs : List (String × Value)} {es : List (String × List String)}

/-- The members of an object whose values are lists of texts. -/
def listed (es : List (String × List String)) : List (String × Value) :=
  es.map fun (label, phrases) => (label, .list (phrases.map .text))

/-- The gazetteer of a model, with the background, the case mode and the name that it gives, or those that are
taken where it gives none. -/
def described (kvs : List (String × Value)) (es : List (String × List String)) (name : String) : Gazetteer :=
  Gazetteer.ofEntities (toEntities es) ((kvs.lookup "background").getD (.text "O")).display.toList
    ((kvs.lookup "case_sensitive").getD (.bool true)).isTrue
    (.text ((kvs.lookup "name").getD (.text name)).display)

theorem phrases?_eq_some_iff {vs : List Value} {phrases : List String} :
    phrases? vs = some phrases ↔ vs = phrases.map .text := by
  induction vs generalizing phrases with
  | nil => simp [phrases?, eq_comm]
  | cons v vs ih =>
    cases v with
    | text s =>
      rw [phrases?, Option.map_eq_some_iff]
      constructor
      · rintro ⟨rest, hrest, rfl⟩
        rw [ih.1 hrest, List.map_cons]
      · intro h
        cases phrases with
        | nil => cases h
        | cons t rest =>
          obtain ⟨hs, hrest⟩ := List.cons.inj h
          cases hs
          exact ⟨rest, ih.2 hrest, rfl⟩
    | _ =>
      constructor
      · intro h
        cases h
      · intro h
        cases phrases <;> cases h

theorem readEntities_eq_ok_iff : readEntities kvs = .ok es ↔ kvs = listed es := by
  induction kvs generalizing es with
  | nil => cases es <;> simp [readEntities, listed]
  | cons kv kvs ih =>
    obtain ⟨label, v⟩ := kv
    have hlisted {phrases : List String} {rest : List (String × List String)} :
        listed ((label, phrases) :: rest) = (label, .list (phrases.map .text)) :: listed rest := rfl
    constructor
    · intro h
      unfold readEntities at h
      split at h
      · next vs =>
        split at h
        · cases h
        · next phrases hphrases =>
          cases hrest : readEntities kvs with
          | error e =>
            rw [hrest] at h
            cases h
          | ok rest =>
            rw [hrest] at h
            cases h
            rw [hlisted, ← phrases?_eq_some_iff.1 hphrases, ← ih.1 hrest]
      · cases h
    · intro h
      cases es with
      | nil => cases h
      | cons e es =>
        obtain ⟨label', phrases⟩ := e
        obtain ⟨hfirst, hrest⟩ := List.cons.inj h
        cases hfirst
        have hphrases : phrases? (phrases.map .text) = some phrases := phrases?_eq_some_iff.2 rfl
        simp only [readEntities, hphrases, ih.2 hrest]
        rfl

theorem ofValue_eq_ok_iff : ofValue v source name = .ok g ↔
    ∃ kvs es, v = .map kvs ∧ kvs.lookup "entities" = some (.map (listed es)) ∧ g = described kvs es name := by
  constructor
  · intro h
    unfold ofValue at h
    split at h
    · split at h
      · next hentities =>
        split at h
        · cases h
        · next hes =>
          cases h
          exact ⟨_, _, rfl, readEntities_eq_ok_iff.1 hes ▸ hentities, rfl⟩
      · cases h
    · cases h
  · rintro ⟨kvs, es, rfl, hentities, rfl⟩
    have hes : readEntities (listed es) = .ok es := readEntities_eq_ok_iff.2 rfl
    simp only [ofValue, hentities, hes]
    rfl

theorem exists_model_of_ofValue (h : ofValue v source name = .error f) : ∃ e, f = .model e := by
  unfold ofValue at h
  split at h
  · split at h
    · split at h
      · cases h
        exact ⟨_, rfl⟩
      · cases h
    · cases h
      exact ⟨_, rfl⟩
  · cases h
    exact ⟨_, rfl⟩

theorem ofText_eq_ok_iff {s : List Char} : ofText s source name = .ok g ↔
    ∃ kvs es, Json.IsText Json.nestingLimit s (.map kvs) ∧ kvs.lookup "entities" = some (.map (listed es)) ∧
      g = described kvs es name := by
  unfold ofText
  constructor
  · intro h
    split at h
    · next hread =>
      obtain ⟨kvs, es, rfl, hrest⟩ := ofValue_eq_ok_iff.1 h
      exact ⟨kvs, es, Json.read_eq_ok_iff.1 hread, hrest⟩
    · cases h
    · cases h
    · cases h
  · rintro ⟨kvs, es, htext, hrest⟩
    rw [Json.read_eq_ok_iff.2 htext]
    exact ofValue_eq_ok_iff.2 ⟨kvs, es, rfl, hrest⟩

/-- A text is refused as a model unless it is nested too deep. -/
theorem ofText_error {s : List Char} (h : ofText s source name = .error f) :
    (∀ e, f ≠ .model e) ↔ ∃ inArray, Json.read s = .error (.tooDeep inArray) := by
  unfold ofText at h
  split at h
  · next hread =>
    obtain ⟨e, rfl⟩ := exists_model_of_ofValue h
    simp [hread]
  · next hread =>
    cases h
    simp [hread]
  · next hread =>
    cases h
    simp [hread]
  · next hread =>
    cases h
    simp [hread]

theorem result_load {path : String} (hpath : path ≠ "") : (load d path name).result =
    (readFile d (Path.ofString path) >>= fun s =>
      ofText s (Path.ofString path).text (Path.ofString path).stem) := by
  have hnonempty : (!path.isEmpty) = true := by simpa using hpath
  rw [load, if_pos hnonempty, Run.log, Run.emit_bind, loadFile]
  dsimp only
  cases readFile d (Path.ofString path) with
  | error f => rfl
  | ok s =>
    rw [Run.ofExcept_ok_bind]
    change (Run.ofExcept (ofText s _ _) >>= _).result = ofText s _ _
    cases ofText s (Path.ofString path).text (Path.ofString path).stem with
    | error f => rfl
    | ok g => rfl

/-- A file is read when its bytes are those of a text. -/
theorem readFile_eq_ok_iff {s : List Char} : readFile d p = .ok s ↔
    ∃ text, d.read p = .ok (Charset.Utf8.encode text) ∧ s = Folder.unifyLines text := by
  have hfile : readFile d p = .ok s ↔ d.readText p = .ok s := by
    unfold readFile
    split
    · next hread => rw [hread]
    · next hread =>
      rw [hread]
      exact ⟨nofun, nofun⟩
  rw [hfile, Folder.readText, bind_eq_ok]
  constructor
  · rintro ⟨bs, hread, h⟩
    obtain ⟨text, hdecode, heq⟩ := bind_eq_ok.1 h
    cases heq
    exact ⟨text, by rw [hread, Charset.Utf8.decode_eq_ok_iff.1 hdecode], rfl⟩
  · rintro ⟨text, hread, rfl⟩
    exact ⟨_, hread, bind_eq_ok.2 ⟨text, Charset.Utf8.decode_eq_ok_iff.2 rfl, rfl⟩⟩

/-- What is not read is refused as a model, but not a path that is none, and not bytes that are no text. -/
theorem readFile_error (h : readFile d p = .error f) : (∀ e, f ≠ .model e) ↔
    '\x00' ∈ p.text.toList ∨ ∃ bs, d.read p = .ok bs ∧ ∀ text, bs ≠ Charset.Utf8.encode text := by
  unfold readFile at h
  split at h
  · cases h
  · next cause hcause =>
    obtain hread | ⟨bs, hread, hdecode⟩ := bind_eq_error hcause
    · by_cases hnull : '\x00' ∈ p.text.toList
      · rw [Folder.read_of_null hnull] at hread
        cases hread
        cases h
        simp [hnull, Fault.isSystem]
      · rw [if_pos (Folder.isSystem_of_read hnull hread)] at h
        cases h
        simp [hnull, hread]
    · obtain hdecode | ⟨text, -, hpure⟩ := bind_eq_error hdecode
      · have hundecodable := Charset.Utf8.isUndecodable_of_decodeFrom hdecode
        have hnone : ∀ text, bs ≠ Charset.Utf8.encode text := by
          rintro text rfl
          rw [Charset.Utf8.decode_eq_ok_iff.2 rfl] at hdecode
          cases hdecode
        have hcause : ∀ e, f ≠ .model e := by
          rintro e rfl
          cases cause with
          | undecodable => cases h
          | _ => cases hundecodable
        exact iff_of_true hcause (.inr ⟨bs, hread, hnone⟩)
      · cases hpure

end Model

end LineTagger
