import LineTagger.Proofs.Annotation.Elements

/-!
The text that is visible in annotated text. Without its annotations each style shows the same: the text
without the white space at its ends, or its tokens joined by single spaces.
-/

namespace LineTagger.Markup

/-- Drops tags, from `<` to the next `>`; `inside` tells whether the text starts within one. -/
def dropTags : Bool → List Char → List Char
  | _, [] => []
  | true, c :: s => dropTags (c ≠ '>') s
  | false, c :: s => if c = '<' then dropTags true s else c :: dropTags false s

/-- Drops the slash and the label behind each token; none when the text is not these tokens so marked. -/
def dropLabels? : List Token → List Char → Option (List Char)
  | [], s => if s = [] then some [] else none
  | t :: ts, s => do
    let gap := s.takeWhile isBlank
    let s ← (s.dropWhile isBlank).dropPrefix? (t.text ++ '/' :: t.label)
    return gap ++ t.text ++ (← dropLabels? ts s)

/-- What is left of annotated text without its annotations. -/
def visible? (tokens : List Token) (format : OutputFormat) (s : List Char) : Option (List Char) :=
  match format with
  | .slashTags => dropLabels? tokens s
  | .xml | .inlineXml => resolve? (dropTags false s)

section

variable {w s : List Char} {pieces : List (List Char × Token)}

theorem dropTags_append (h : '<' ∉ w) (s : List Char) : dropTags false (w ++ s) = w ++ dropTags false s := by
  induction w with
  | nil => rfl
  | cons c w ih =>
    rw [List.mem_cons, not_or] at h
    rw [List.cons_append, dropTags, if_neg (Ne.symm h.1), ih h.2, List.cons_append]

theorem dropTags_tag (h : '>' ∉ w) (s : List Char) :
    dropTags false ('<' :: (w ++ '>' :: s)) = dropTags false s := by
  rw [dropTags, if_pos rfl]
  induction w with
  | nil => rfl
  | cons c w ih =>
    rw [List.mem_cons, not_or] at h
    rw [List.cons_append, dropTags, decide_eq_true (Ne.symm h.1)]
    exact ih h.2

theorem gt_notMem_quotedAttribute (s : List Char) : '>' ∉ quotedAttribute s := by
  obtain ⟨quote, body, heq, hquote, -, -, hplain⟩ := exists_quotedAttribute s
  have hne : '>' ≠ quote := by
    obtain rfl | rfl := hquote <;> decide
  have hbody : '>' ∉ body := fun hmem => hplain _ hmem (by decide)
  simp [heq, hne, hbody]

theorem escape_append (s r : List Char) : escape (s ++ r) = escape s ++ escape r := List.flatMap_append

/-- White space is written as it is. -/
theorem escape_blank (h : ∀ c ∈ s, isBlank c = true) : escape s = s := by
  have hself : ∀ c ∈ s, escapeChar c = [c] := by
    intro c hc
    have hmarkup : ∀ d ∈ "&<>".toList, isBlank d = false := by decide
    unfold escapeChar
    split
    case h_4 => rfl
    all_goals exact absurd (h _ hc) (Bool.eq_false_iff.1 (hmarkup _ (by decide)))
  rw [escape, List.flatMap_congr hself, List.flatMap_singleton']

theorem lt_notMem_blank (h : ∀ c ∈ s, isBlank c = true) : '<' ∉ s :=
  escape_blank h ▸ notMem_escape (by decide) s

/-- A token in an element, behind white space, leaves both. -/
theorem dropTags_element (h : ∀ c ∈ w, isBlank c = true) (i : Nat) (t : Token) (s : List Char) :
    dropTags false (w ++ element i t ++ s) = escape (w ++ t.text) ++ dropTags false s := by
  have hstart : '>' ∉ "wi num=\"".toList ++ (toString i).toList ++ "\" entity=".toList ++
      quotedAttribute t.label := by
    have hnum : '>' ∉ "wi num=\"".toList := by decide
    have hdigits : '>' ∉ (toString i).toList := fun hmem =>
      absurd (isDigit_of_mem_toString hmem) (by decide)
    have hentity : '>' ∉ "\" entity=".toList := by decide
    simp only [List.mem_append, not_or]
    exact ⟨⟨⟨hnum, hdigits⟩, hentity⟩, gt_notMem_quotedAttribute t.label⟩
  have hwritten : element i t ++ s = '<' :: (("wi num=\"".toList ++ (toString i).toList ++
      "\" entity=".toList ++ quotedAttribute t.label) ++ '>' :: (escape t.text ++
        '<' :: ("/wi".toList ++ '>' :: s))) := by
    have hopen : "<wi num=\"".toList = '<' :: "wi num=\"".toList := by decide
    have hclose : "</wi>".toList = '<' :: ("/wi".toList ++ ['>']) := by decide
    unfold element
    rw [hopen, hclose]
    simp only [List.append_assoc, List.cons_append, List.nil_append]
  rw [List.append_assoc, dropTags_append (lt_notMem_blank h), hwritten, dropTags_tag hstart,
    dropTags_append (notMem_escape (by decide) _), dropTags_tag (by decide), escape_append, escape_blank h,
    List.append_assoc]

theorem dropTags_xmlFrom (h : ∀ x ∈ pieces, ∀ c ∈ x.1, isBlank c = true) (k : Nat) :
    dropTags false (xmlFrom k pieces) = escape (plain pieces) := by
  induction pieces generalizing k with
  | nil => rfl
  | cons x pieces ih =>
    obtain ⟨sep, t⟩ := x
    obtain ⟨hsep, hpieces⟩ := List.forall_mem_cons.1 h
    rw [xmlFrom_cons, dropTags_element hsep, ih hpieces, ← escape_append]
    rfl

theorem dropTags_closing {current : Option (List Char)} (h : ∀ l ∈ current, '>' ∉ l) (s : List Char) :
    dropTags false (closing current ++ s) = dropTags false s := by
  cases current with
  | none => rfl
  | some label =>
    have hlabel : '>' ∉ '/' :: label := by simpa using h label rfl
    have hclose : closing (some label) ++ s = '<' :: (('/' :: label) ++ '>' :: s) := by
      simp [closing, closeTag]
    rw [hclose, dropTags_tag hlabel]

theorem dropTags_inlineXml (h : ∀ x ∈ pieces, ∀ c ∈ x.1, isBlank c = true)
    (hlabels : ∀ x ∈ pieces, '>' ∉ x.2.label) (background : List Char) {current : Option (List Char)}
    (hcurrent : ∀ l ∈ current, '>' ∉ l) :
    dropTags false (inlineXml background current pieces) = escape (plain pieces) := by
  induction pieces generalizing current with
  | nil =>
    rw [inlineXml, ← List.append_nil (closing current), dropTags_closing hcurrent]
    rfl
  | cons x pieces ih =>
    obtain ⟨sep, t⟩ := x
    obtain ⟨hsep, hpieces⟩ : (∀ c ∈ sep, isBlank c = true) ∧ _ := List.forall_mem_cons.1 h
    obtain ⟨hlabel, hothers⟩ := List.forall_mem_cons.1 hlabels
    have hentity : ∀ l ∈ entity? background t, '>' ∉ l := by
      intro l hl
      unfold entity? at hl
      split at hl
      · cases hl
      · exact Option.some.inj hl ▸ hlabel
    have hword : dropTags false (escape t.text ++ inlineXml background (entity? background t) pieces) =
        escape (t.text ++ plain pieces) := by
      rw [dropTags_append (notMem_escape (by decide) _), ih hpieces hothers hentity, escape_append]
    have hplain : escape (plain ((sep, t) :: pieces)) = sep ++ escape (t.text ++ plain pieces) := by
      calc escape (plain ((sep, t) :: pieces))
          _ = escape (sep ++ (t.text ++ plain pieces)) := by simp [plain]
          _ = sep ++ escape (t.text ++ plain pieces) := by rw [escape_append, escape_blank hsep]
    rw [inlineXml, hplain, ← hword]
    generalize escape t.text ++ inlineXml background (entity? background t) pieces = body
    by_cases hsame : entity? background t = current
    · rw [if_pos hsame, dropTags_append (lt_notMem_blank hsep)]
    · rw [if_neg hsame, List.append_assoc, dropTags_closing hcurrent, dropTags_append (lt_notMem_blank hsep)]
      cases hlabel : entity? background t with
      | none => rfl
      | some l =>
        have hopen : openTag l ++ body = '<' :: (l ++ '>' :: body) := by simp [openTag]
        simp only
        rw [hopen, dropTags_tag (hentity l hlabel)]

theorem dropLabels?_slashTags (h : Spaced pieces) :
    dropLabels? (pieces.map Prod.snd) (slashTags pieces) = some (plain pieces) := by
  induction pieces with
  | nil => rfl
  | cons x pieces ih =>
    obtain ⟨sep, t⟩ := x
    obtain ⟨⟨hsep, hshape⟩, hpieces⟩ := List.forall_mem_cons.1 h
    obtain ⟨hne, hsolid⟩ := Token.solid_of_shape hshape
    obtain ⟨c, w, htext⟩ := List.exists_cons_of_ne_nil hne
    have hc : isBlank c = false := hsolid c (htext ▸ List.mem_cons_self)
    have hwritten : slashTags ((sep, t) :: pieces) =
        sep ++ (t.text ++ '/' :: t.label ++ slashTags pieces) := by
      simp [slashTags]
    have hgap : (slashTags ((sep, t) :: pieces)).takeWhile isBlank = sep := by
      rw [hwritten, List.takeWhile_append_of_pos hsep, htext]
      simp [hc]
    have hrest : (slashTags ((sep, t) :: pieces)).dropWhile isBlank =
        t.text ++ '/' :: t.label ++ slashTags pieces := by
      rw [hwritten, List.dropWhile_append_of_pos hsep, htext]
      simp [hc]
    rw [List.map_cons, dropLabels?, hgap, hrest, dropPrefix?_append]
    simp only [Option.bind_eq_bind, Option.bind_some, ih hpieces]
    rfl

end

/-- All styles show the same text when no label holds the end of a tag: with spacing kept, the text without
the white space at its ends, and with spacing collapsed, its tokens joined by single spaces. -/
theorem render_visibleText (text : List Char) (labels : Nat → List Char)
    (hlabels : ∀ t ∈ Token.labelled labels (Token.ofText text), '>' ∉ t.label)
    (format : OutputFormat) (preserve : Bool) (background : List Char) :
    visible? (Token.labelled labels (Token.ofText text)) format
        (render text (Token.labelled labels (Token.ofText text)) format preserve background) =
      some (if preserve then strip text else [' '].intercalate ((Token.ofText text).map Token.text)) := by
  have hrelabelled := Token.map_unlabelled_labelled labels (Token.ofText text)
  have hspaced := spaced_separated hrelabelled preserve
  have htokens := map_snd_separated text preserve (Token.labelled labels (Token.ofText text))
  rw [← plain_separated hrelabelled preserve]
  unfold render
  generalize Token.labelled labels (Token.ofText text) = tokens at *
  generalize separated text preserve tokens = pieces at *
  subst htokens
  have hgaps : ∀ x ∈ pieces, ∀ c ∈ x.1, isBlank c = true := fun x hx => (hspaced x hx).1
  cases format with
  | slashTags => exact dropLabels?_slashTags hspaced
  | xml =>
    have hdropped : dropTags false (xml pieces) = escape (plain pieces) := dropTags_xmlFrom hgaps 0
    simp only [visible?]
    rw [hdropped, (denotes_escape _).resolve?_eq]
  | inlineXml =>
    simp only [visible?]
    rw [dropTags_inlineXml hgaps (fun x hx => hlabels _ (List.mem_map_of_mem hx)) background (by simp),
      (denotes_escape _).resolve?_eq]

/-- A text of markup, in tags. -/
theorem render_visibleText_markup :
    let text := "  AT&T's  <b>\ttok ".toList
    let tokens := Token.labelled (fun i => if i < 3 then "ORG".toList else ['O']) (Token.ofText text)
    (∀ t ∈ tokens, '>' ∉ t.label) ∧
      visible? tokens .inlineXml (render text tokens .inlineXml true ['O']) =
        some "AT&T's  <b>\ttok".toList := by
  intro text tokens
  have hlabels : ∀ t ∈ tokens, '>' ∉ t.label := by
    intro t ht
    obtain ⟨i, -, rfl⟩ := List.mem_mapIdx.1 ht
    show '>' ∉ if i < 3 then "ORG".toList else ['O']
    split <;> decide
  have hstrip : strip text = "AT&T's  <b>\ttok".toList := by decide
  refine ⟨hlabels, ?_⟩
  rw [render_visibleText text _ hlabels .inlineXml true ['O'], if_pos rfl, hstrip]

end LineTagger.Markup
