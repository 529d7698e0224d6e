import LineTagger.Model
import LineTagger.Proofs.Annotation.LongestMatch
import LineTagger.Proofs.Annotation.Spacing

/-!
Texts with the same tokens in other places. Neither labels nor styles depend on where tokens stand, and
tokens joined by single spaces are read as the same tokens again; so a text with its spacing collapsed is
annotated as the joined tokens are with theirs kept.
-/

namespace LineTagger

namespace Token

/-- A token without its place. -/
def unplaced (t : Token) : Token := { t with start := 0, stop := 0 }

/-- Words with a space between them, as tokens. -/
def inLine (pos : Nat) : List (List Char) → List Token
  | [] => []
  | w :: ws => { text := w, start := pos, stop := pos + w.length } :: inLine (pos + w.length + 1) ws

section

variable {ws : List (List Char)}

/-- Words and marks in a line are its tokens. -/
theorem tiles_inLine (h : ∀ w ∈ ws, IsMark w ∨ IsWordText w) (pos : Nat) :
    Tiles pos ([' '].intercalate ws) (inLine pos ws) := by
  induction ws generalizing pos with
  | nil => exact .nil
  | cons w ws ih =>
    obtain ⟨hw, hws⟩ := List.forall_mem_cons.1 h
    cases ws with
    | nil =>
      have hlast : Tiles pos (w ++ []) (inLine pos [w]) := .cons hw (fun _ => trivial) .nil
      rw [List.append_nil] at hlast
      rwa [List.intercalate_singleton]
    | cons v ws =>
      have hspace : isBlank ' ' = true := by decide
      have hends : EndsWord (' ' :: [' '].intercalate (v :: ws)) :=
        ⟨isWord_of_isBlank hspace, fun hc => absurd hc (by decide)⟩
      rw [List.intercalate_cons_cons, List.append_assoc]
      exact .cons hw (fun _ => hends) (.blank hspace (ih hws _))

theorem ofText_intercalate (h : ∀ w ∈ ws, IsMark w ∨ IsWordText w) :
    ofText ([' '].intercalate ws) = inLine 0 ws := (tiles_inLine h 0).eq_scan.symm

theorem map_unplaced_inLine (pos : Nat) (ws : List (List Char)) :
    (inLine pos ws).map unplaced = ws.map fun w => { text := w, start := 0, stop := 0 } := by
  induction ws generalizing pos with
  | nil => rfl
  | cons w ws ih => rw [inLine, List.map_cons, ih, List.map_cons]; rfl

theorem map_unplaced_ofText (text : List Char) : (ofText text).map unplaced =
    ((ofText text).map Token.text).map fun w => { text := w, start := 0, stop := 0 } := by
  rw [List.map_map]
  refine List.map_congr_left fun t ht => ?_
  have hlabel := ((spans_ofText text).fits t ht).label
  rw [unplaced, hlabel]
  rfl

end

end Token

namespace Gazetteer

variable (g : Gazetteer)

theorem longestMatch?_unplaced (n : Nat) (ts : List Token) :
    g.longestMatch? n (ts.map Token.unplaced) = g.longestMatch? n ts := by
  apply longestMatch?_congr
  rw [List.map_map]
  rfl

/-- Labels do not depend on places. -/
theorem labelTokens_unplaced (ts : List Token) :
    g.labelTokens (ts.map Token.unplaced) = (g.labelTokens ts).map Token.unplaced := by
  have hmoved (t : Token) (ts : List Token) :
      g.longestMatch? ((t.unplaced :: ts.map Token.unplaced).take g.longest).length
          (t.unplaced :: ts.map Token.unplaced) =
        g.longestMatch? ((t :: ts).take g.longest).length (t :: ts) := by
    rw [← List.map_cons, ← List.map_take, List.length_map, longestMatch?_unplaced]
  fun_induction g.labelTokens ts with
  | case1 => rw [List.map_nil, labelTokens]
  | case2 t ts n l hmatch ih =>
    rw [List.map_cons, labelTokens, hmoved, hmatch]
    simp only [← List.map_drop, ih, List.map_append, List.map_cons, List.map_take, List.map_map]
    rfl
  | case3 t ts hmatch ih =>
    rw [List.map_cons, labelTokens, hmoved, hmatch]
    simp only [ih, List.map_cons]
    rfl

end Gazetteer

namespace Markup

section

variable {text joined : List Char} {preserve kept : Bool} {t : Token} {ts us : List Token}
  {ws : List (List Char)} {pos : Nat}

theorem slashTags_unplaced (pieces : List (List Char × Token)) :
    slashTags (pieces.map (Prod.map id Token.unplaced)) = slashTags pieces := by
  rw [slashTags, List.flatMap_map]
  rfl

theorem xml_unplaced (pieces : List (List Char × Token)) :
    xml (pieces.map (Prod.map id Token.unplaced)) = xml pieces := by
  rw [xml, List.zipIdx_map, List.flatMap_map]
  rfl

theorem inlineXml_unplaced (background : List Char) (current : Option (List Char))
    (pieces : List (List Char × Token)) :
    inlineXml background current (pieces.map (Prod.map id Token.unplaced)) =
      inlineXml background current pieces := by
  induction pieces generalizing current with
  | nil => rfl
  | cons x pieces ih =>
    obtain ⟨sep, t⟩ := x
    rw [List.map_cons, Prod.map_apply, inlineXml, inlineXml, ih]
    rfl

/-- Every style writes the same of the same pieces in other places. -/
theorem render_congr (h : (separated text preserve ts).map (Prod.map id Token.unplaced) =
      (separated joined kept us).map (Prod.map id Token.unplaced))
    (format : OutputFormat) (background : List Char) :
    render text ts format preserve background = render joined us format kept background := by
  cases format with
  | slashTags => simp only [render]; rw [← slashTags_unplaced, h, slashTags_unplaced]
  | xml => simp only [render]; rw [← xml_unplaced, h, xml_unplaced]
  | inlineXml => simp only [render]; rw [← inlineXml_unplaced, h, inlineXml_unplaced]

theorem separated_unplaced (text : List Char) (ts : List Token) :
    (separated text false ts).map (Prod.map id Token.unplaced) =
      separated [] false (ts.map Token.unplaced) := by
  cases ts with
  | nil => rfl
  | cons t ts =>
    rw [List.map_cons, separated_collapsed, separated_collapsed, List.map_cons, List.map_map, List.map_map]
    rfl

/-- Words in a line stand one space apart. -/
theorem zipWith_separator_inLine (htext : text.drop pos = ws.flatMap (' ' :: ·)) (ht : t.stop = pos) :
    List.zipWith (separator text.toArray true) (t :: Token.inLine (pos + 1) ws) (Token.inLine (pos + 1) ws) =
      List.zipWith (separator text.toArray false) (t :: Token.inLine (pos + 1) ws)
        (Token.inLine (pos + 1) ws) := by
  induction ws generalizing pos t with
  | nil => rfl
  | cons w ws ih =>
    have hrest : text.drop (pos + 1 + w.length) = ws.flatMap (' ' :: ·) := by
      rw [Nat.add_assoc, ← List.drop_drop, htext, List.flatMap_cons, List.cons_append, Nat.add_comm,
        List.drop_succ_cons, List.drop_left]
    have hgap : slice text.toArray pos (pos + 1 : Nat) = [' '] := slice_of_drop (w := [' ']) htext
    rw [Token.inLine, List.zipWith_cons_cons, List.zipWith_cons_cons, ih hrest rfl, separator, if_pos rfl, ht,
      hgap]
    rfl

/-- Keeping the space between words in a line, whatever their labels, is the same as collapsing it. -/
theorem separated_inLine (h : us.map Token.unlabelled = (Token.inLine 0 ws).map Token.unlabelled) :
    separated ([' '].intercalate ws) true us = separated ([' '].intercalate ws) false us := by
  rw [separated_eq, separated_eq, gaps_congr h, gaps_congr h]
  cases ws with
  | nil => rfl
  | cons w ws =>
    have htext : ([' '].intercalate (w :: ws)).drop (0 + w.length) = ws.flatMap (' ' :: ·) := by
      rw [intercalate_cons, Nat.zero_add, List.drop_left]
    rw [gaps, gaps, Token.inLine, List.tail_cons, zipWith_separator_inLine htext rfl]

end

end Markup

namespace Gazetteer

variable (g : Gazetteer)

/-- With spacing collapsed, only the tokens count. -/
theorem render_labelTokens_congr {ts us : List Token} (h : ts.map Token.unplaced = us.map Token.unplaced)
    (text joined : List Char) (format : OutputFormat) :
    Markup.render text (g.labelTokens ts) format false g.background =
      Markup.render joined (g.labelTokens us) format false g.background := by
  apply Markup.render_congr
  rw [Markup.separated_unplaced, Markup.separated_unplaced, ← labelTokens_unplaced, h, labelTokens_unplaced]

/-- A text with its spacing collapsed is annotated as its tokens joined by single spaces are with theirs
kept. So texts with the same tokens are annotated alike, however they are spaced. -/
theorem classify_collapsed (text : List Char) (format : OutputFormat) :
    g.classify text format false =
        g.classify ([' '].intercalate ((Token.ofText text).map Token.text)) format true ∧
      ∀ s, (Token.ofText s).map Token.text = (Token.ofText text).map Token.text →
        g.classify s format false = g.classify text format false := by
  constructor
  · have hshape : ∀ w ∈ (Token.ofText text).map Token.text, Token.IsMark w ∨ Token.IsWordText w := by
      intro w hw
      obtain ⟨t, ht, rfl⟩ := List.mem_map.1 hw
      exact Token.shape_of_mem_ofText ht
    have hplaces := (Token.map_unplaced_ofText text).trans (Token.map_unplaced_inLine 0 _).symm
    have hline := Token.ofText_intercalate hshape
    generalize (Token.ofText text).map Token.text = ws at *
    have hspaces := Markup.separated_inLine (map_labelTokens (fun _ _ => rfl) g (Token.inLine 0 ws))
    calc g.classify text format false
        _ = Markup.render ([' '].intercalate ws) (g.labelTokens (Token.inLine 0 ws)) format false
            g.background := render_labelTokens_congr g hplaces _ _ format
        _ = Markup.render ([' '].intercalate ws) (g.labelTokens (Token.inLine 0 ws)) format true
            g.background := Markup.render_congr (by rw [hspaces]) format g.background
        _ = g.classify ([' '].intercalate ws) format true := by rw [classify, label, hline]
  · intro s hs
    have hplaces : (Token.ofText s).map Token.unplaced = (Token.ofText text).map Token.unplaced := by
      rw [Token.map_unplaced_ofText, Token.map_unplaced_ofText, hs]
    exact render_labelTokens_congr g hplaces s text format

/-- The bundled model finds a name of two tokens on either side of a tab, or of two spaces. -/
theorem classify_collapsed_default :
    let text := "Ada\tLovelace wrote.".toList
    let s := " Ada  Lovelace\u2003wrote . ".toList
    (Token.ofText s).map Token.text = (Token.ofText text).map Token.text ∧
      Model.defaultModel.classify s .inlineXml false = Model.defaultModel.classify text .inlineXml false := by
  intro text s
  have htokens : (Token.ofText s).map Token.text = (Token.ofText text).map Token.text := by decide +kernel
  exact ⟨htokens, (classify_collapsed Model.defaultModel text .inlineXml).2 s htokens⟩

end Gazetteer

end LineTagger
