import LineTagger.Proofs.Annotation.OneLine

/-!
A reader of slash tags. With spacing collapsed a text is its tokens and labels again: spaces end the pieces,
since no token holds white space, and of the slashes of a piece only the last one is not of the token.
-/

namespace LineTagger.Markup

/-- A piece cut at its last slash, if it has one. -/
def cutLast? : List Char → Option (List Char × List Char)
  | [] => none
  | c :: s =>
    match cutLast? s with
    | some (w, label) => some (c :: w, label)
    | none => if c = '/' then some ([], s) else none

/-- The tokens and labels of a line of slash tags with single spaces between them. -/
def readTags? (line : List Char) : Option (List (List Char × List Char)) :=
  (line.splitOn ' ').mapM cutLast?

/-- A label that a reader of slash tags can tell from a token and from the next piece. -/
def IsBare (label : List Char) : Prop := '/' ∉ label ∧ ∀ c ∈ label, isBlank c = false

instance (label : List Char) : Decidable (IsBare label) := inferInstanceAs (Decidable (_ ∧ _))

/-- A token with a slash and its label. -/
def tagged (t : Token) : List Char := t.text ++ '/' :: t.label

section

variable {w s label : List Char} {t : Token} {ts us : List Token}

theorem cutLast?_eq_none (h : '/' ∉ s) : cutLast? s = none := by
  induction s with
  | nil => rfl
  | cons c s ih =>
    rw [List.mem_cons, not_or] at h
    rw [cutLast?, ih h.2]
    exact if_neg (Ne.symm h.1)

theorem cutLast?_append (h : '/' ∉ label) (w : List Char) : cutLast? (w ++ '/' :: label) = some (w, label) := by
  induction w with
  | nil =>
    rw [List.nil_append, cutLast?, cutLast?_eq_none h]
    rfl
  | cons c w ih => rw [List.cons_append, cutLast?, ih]

/-- With spacing collapsed, slash tags are the tagged tokens joined by single spaces. -/
theorem slashTags_collapsed (text : List Char) (ts : List Token) :
    slashTags (separated text false ts) = [' '].intercalate (ts.map tagged) := by
  cases ts with
  | nil => rfl
  | cons t ts =>
    rw [separated_collapsed, List.map_cons, intercalate_cons, List.flatMap_map]
    simp [slashTags, List.flatMap_map, tagged]

theorem space_notMem_tagged (htext : ∀ c ∈ t.text, isBlank c = false) (hlabel : IsBare t.label) :
    ' ' ∉ tagged t := by
  have hspace : isBlank ' ' = true := by decide
  have hfree {s : List Char} (h : ∀ c ∈ s, isBlank c = false) : ' ' ∉ s := by
    intro hmem
    rw [h _ hmem] at hspace
    cases hspace
  rw [tagged, List.mem_append, List.mem_cons, not_or, not_or]
  exact ⟨hfree htext, by decide, hfree hlabel.2⟩

theorem mapM_cutLast? (h : ∀ t ∈ ts, IsBare t.label) :
    (ts.map tagged).mapM cutLast? = some (ts.map fun t => (t.text, t.label)) := by
  induction ts with
  | nil => rfl
  | cons t ts ih =>
    obtain ⟨ht, hts⟩ := List.forall_mem_cons.1 h
    rw [List.map_cons, List.mapM_cons, tagged, cutLast?_append ht.1, ih hts]
    rfl

/-- Tokens without white space and with bare labels are read back. -/
theorem readTags?_slashTags (hne : ts ≠ []) (htexts : ∀ t ∈ ts, ∀ c ∈ t.text, isBlank c = false)
    (hlabels : ∀ t ∈ ts, IsBare t.label) (text : List Char) :
    readTags? (slashTags (separated text false ts)) = some (ts.map fun t => (t.text, t.label)) := by
  have hspaces : ∀ piece ∈ ts.map tagged, ' ' ∉ piece := by
    intro piece hpiece
    obtain ⟨t, ht, rfl⟩ := List.mem_map.1 hpiece
    exact space_notMem_tagged (htexts t ht) (hlabels t ht)
  have hpieces : ts.map tagged ≠ [] := by simpa using hne
  rw [readTags?, slashTags_collapsed, List.splitOn_intercalate ' ' hspaces hpieces, mapM_cutLast? hlabels]

theorem eq_nil_of_slashTags_eq_nil (h : slashTags (separated s false ts) = []) : ts = [] := by
  cases ts with
  | nil => rfl
  | cons t ts =>
    rw [separated_collapsed] at h
    simp [slashTags] at h

/-- Equal lines are of equal tokens with equal labels. -/
theorem pairs_eq_of_slashTags_eq (htexts : ∀ t ∈ ts ++ us, ∀ c ∈ t.text, isBlank c = false)
    (hlabels : ∀ t ∈ ts ++ us, IsBare t.label)
    (h : slashTags (separated w false ts) = slashTags (separated s false us)) :
    ts.map (fun t => (t.text, t.label)) = us.map fun t => (t.text, t.label) := by
  rw [List.forall_mem_append] at htexts hlabels
  by_cases hts : ts = []
  · subst hts
    rw [eq_nil_of_slashTags_eq_nil h.symm]
  · have hus : us ≠ [] := by
      rintro rfl
      exact hts (eq_nil_of_slashTags_eq_nil h)
    have hread := readTags?_slashTags hts htexts.1 hlabels.1 w
    rw [h, readTags?_slashTags hus htexts.2 hlabels.2 s] at hread
    exact (Option.some.inj hread).symm

end

section

variable (text : List Char) (labels : Nat → List Char)

theorem isBlank_of_mem_labelled : ∀ t ∈ Token.labelled labels (Token.ofText text),
    ∀ c ∈ t.text, isBlank c = false := by
  intro t ht
  obtain ⟨i, hi, rfl⟩ := List.mem_mapIdx.1 ht
  exact (Token.solid_of_shape (Token.shape_of_mem_ofText (List.getElem_mem hi))).2

theorem isBare_of_mem_labelled (h : ∀ i < (Token.ofText text).length, IsBare (labels i)) :
    ∀ t ∈ Token.labelled labels (Token.ofText text), IsBare t.label := by
  intro t ht
  obtain ⟨i, hi, rfl⟩ := List.mem_mapIdx.1 ht
  exact h i hi

theorem map_labelled : (Token.labelled labels (Token.ofText text)).map (fun t => (t.text, t.label)) =
    (Token.ofText text).mapIdx fun i t => (t.text, labels i) := by
  apply List.ext_getElem?
  intro i
  simp only [Token.labelled, List.getElem?_map, List.getElem?_mapIdx, Option.map_map]
  rfl

theorem isBare_default : ∀ label ∈ Model.defaultModel.background :: Model.defaultModel.labels, IsBare label := by
  intro label hlabel
  exact Gazetteer.forall_default (p := IsBare) (by decide) (List.mem_cons.1 hlabel)

end

/-- Slash tags with spacing collapsed are read back: cut at single spaces, and each piece at its last slash,
they are the tokens with their labels in order, slashes among the tokens included. So tokens and labels that
differ are never written alike. The labels of the bundled model are of the kind that this takes. -/
theorem render_slashTags_readBack (text : List Char) (labels : Nat → List Char) (background : List Char)
    (h : ∀ i < (Token.ofText text).length, IsBare (labels i)) :
    let line := render text (Token.labelled labels (Token.ofText text)) .slashTags false background
    let pairs := (Token.ofText text).mapIdx fun i t => (t.text, labels i)
    (Token.ofText text ≠ [] → readTags? line = some pairs) ∧
    (∀ (s : List Char) (others : Nat → List Char) (b : List Char),
      (∀ i < (Token.ofText s).length, IsBare (others i)) →
      render s (Token.labelled others (Token.ofText s)) .slashTags false b = line →
      (Token.ofText s).mapIdx (fun i t => (t.text, others i)) = pairs) ∧
    ∀ label ∈ Model.defaultModel.background :: Model.defaultModel.labels, IsBare label := by
  intro line pairs
  have htexts := isBlank_of_mem_labelled text labels
  have hlabels := isBare_of_mem_labelled text labels h
  have hpairs := map_labelled text labels
  refine ⟨fun hne => ?_, fun s others b hothers hline => ?_, isBare_default⟩
  · have htokens : Token.labelled labels (Token.ofText text) ≠ [] := by
      simpa [Token.labelled] using hne
    exact (readTags?_slashTags htokens htexts hlabels text).trans (congrArg some hpairs)
  · have htexts' := isBlank_of_mem_labelled s others
    have hlabels' := isBare_of_mem_labelled s others hothers
    rw [← map_labelled]
    exact (pairs_eq_of_slashTags_eq (List.forall_mem_append.2 ⟨htexts', htexts⟩)
      (List.forall_mem_append.2 ⟨hlabels', hlabels⟩) hline).trans hpairs

/-- Slashes that are tokens of their own, with labels that hold none. -/
theorem render_slashTags_readBack_slashes :
    let text := "AC/DC  /".toList
    let labels : Nat → List Char := fun i => if i = 3 then ['O'] else "BAND".toList
    (∀ i < (Token.ofText text).length, IsBare (labels i)) ∧ Token.ofText text ≠ [] ∧
      render text (Token.labelled labels (Token.ofText text)) .slashTags false ['O'] =
        "AC/BAND //BAND DC/BAND //O".toList ∧
      readTags? "AC/BAND //BAND DC/BAND //O".toList = some [("AC".toList, "BAND".toList),
        (['/'], "BAND".toList), ("DC".toList, "BAND".toList), (['/'], ['O'])] := by
  intro text labels
  have hlabels : ∀ i < (Token.ofText text).length, IsBare (labels i) := by
    intro i _
    show IsBare (if i = 3 then ['O'] else "BAND".toList)
    split <;> decide
  have htokens : Token.ofText text ≠ [] := by decide +kernel
  have hline : render text (Token.labelled labels (Token.ofText text)) .slashTags false ['O'] =
      "AC/BAND //BAND DC/BAND //O".toList := by decide +kernel
  have hread := (render_slashTags_readBack text labels ['O'] hlabels).1 htokens
  rw [hline] at hread
  have hpairs : (Token.ofText text).mapIdx (fun i t => (t.text, labels i)) = [("AC".toList, "BAND".toList),
      (['/'], "BAND".toList), ("DC".toList, "BAND".toList), (['/'], ['O'])] := by decide +kernel
  exact ⟨hlabels, htokens, hline, hread.trans (congrArg some hpairs)⟩

end LineTagger.Markup
