import LineTagger.Markup
import LineTagger.Proofs.Annotation.Grammar
import Mathlib.Data.List.Basic

/-!
What stands between the tokens of a text: the white space of the text, or one space each, whatever the
labels. The tokens with what stands between them are the text without the white space at its ends, or the
tokens joined by single spaces.
-/

namespace LineTagger

namespace Token

/-- Tokens with labels, which their numbers give. -/
def labelled (labels : Nat → List Char) (ts : List Token) : List Token :=
  ts.mapIdx fun i t => t.withLabel (labels i)

/-- A token with the label of those that have none of their own. -/
def unlabelled (t : Token) : Token := t.withLabel ['O']

theorem text_unlabelled (t : Token) : t.unlabelled.text = t.text := rfl

theorem map_unlabelled_labelled (labels : Nat → List Char) (ts : List Token) :
    (labelled labels ts).map unlabelled = ts.map unlabelled := by
  apply List.ext_getElem?
  intro i
  simp only [labelled, List.getElem?_map, List.getElem?_mapIdx, Option.map_map]
  rfl

section

variable {text w : List Char} {c : Char}

theorem isBlank_of_isConnector (hc : isConnector c = true) : isBlank c = false := by
  simp only [isConnector, Bool.or_eq_true, decide_eq_true_eq] at hc
  obtain (rfl | rfl) | rfl := hc <;> decide

theorem IsWordText.isWord_or_isConnector (h : IsWordText w) (hc : c ∈ w) :
    isWord c = true ∨ isConnector c = true := by
  induction h with
  | run hw => exact .inl (hw.2 c hc)
  | join hw hd _ ih =>
    obtain hc | hc := List.mem_append.1 hc
    · exact .inl (hw.2 c hc)
    obtain rfl | hc := List.mem_cons.1 hc
    · exact .inr hd
    · exact ih hc

theorem IsWordText.isBlank_eq_false (h : IsWordText w) (hc : c ∈ w) : isBlank c = false := by
  obtain hword | hconnector := h.isWord_or_isConnector hc
  · refine Bool.eq_false_iff.2 fun hblank => ?_
    rw [isWord_of_isBlank hblank] at hword
    cases hword
  · exact isBlank_of_isConnector hconnector

/-- A word or a mark holds no white space, and holds something. -/
theorem solid_of_shape (h : IsMark w ∨ IsWordText w) : w ≠ [] ∧ ∀ c ∈ w, isBlank c = false := by
  obtain ⟨c, rfl, -, hc⟩ | hw := h
  · exact ⟨List.cons_ne_nil c [], by simpa using hc⟩
  · obtain ⟨c, v, rfl, -⟩ := hw.exists_cons
    exact ⟨List.cons_ne_nil c v, fun d hd => hw.isBlank_eq_false hd⟩

theorem spans_ofText (text : List Char) : Spans text 0 (ofText text) := (tiles_scan 0 text).spans rfl

theorem shape_of_mem_ofText {t : Token} (ht : t ∈ ofText text) : IsMark t.text ∨ IsWordText t.text :=
  ((spans_ofText text).fits t ht).shape

end

end Token

namespace Markup

/-- What stands in front of each token. -/
def gaps (text : List Char) (preserve : Bool) (tokens : List Token) : List (List Char) :=
  [] :: List.zipWith (separator text.toArray preserve) tokens tokens.tail

/-- What the tokens of some pieces and the gaps between them are without their labels. -/
def plain (pieces : List (List Char × Token)) : List Char := pieces.flatMap fun (sep, t) => sep ++ t.text

section

variable {text : List Char} {preserve : Bool} {tokens us : List Token} {pieces : List (List Char × Token)}

theorem separated_eq : separated text preserve tokens = (gaps text preserve tokens).zip tokens := rfl

theorem map_snd_separated (text : List Char) (preserve : Bool) (tokens : List Token) :
    (separated text preserve tokens).map Prod.snd = tokens := by
  apply List.map_snd_zip
  simp
  omega

theorem gaps_map_unlabelled :
    gaps text preserve (tokens.map Token.unlabelled) = gaps text preserve tokens := by
  rw [gaps, ← List.map_tail, List.zipWith_map]
  rfl

/-- Gaps are the same for other labels. -/
theorem gaps_congr (h : us.map Token.unlabelled = tokens.map Token.unlabelled) :
    gaps text preserve us = gaps text preserve tokens := by
  rw [← gaps_map_unlabelled, h, gaps_map_unlabelled]

/-- So is the text of tokens and gaps. -/
theorem plain_congr (h : us.map Token.unlabelled = tokens.map Token.unlabelled) :
    plain (separated text preserve us) = plain (separated text preserve tokens) := by
  have hplain (us : List Token) : plain (separated text preserve us) =
      plain ((gaps text preserve us).zip (us.map Token.unlabelled)) := by
    rw [List.zip_map_right, plain, plain, List.flatMap_map]
    rfl
  rw [hplain, hplain, h, gaps_congr h]

/-- With spacing collapsed a space stands in front of each token but the first. -/
theorem separated_collapsed (text : List Char) (t : Token) (ts : List Token) :
    separated text false (t :: ts) = ([], t) :: ts.map fun u => ([' '], u) := by
  rw [separated, List.tail_cons, List.zip_cons_cons]
  congr 1
  induction ts generalizing t with
  | nil => rfl
  | cons u ts ih => rw [List.zipWith_cons_cons, List.zip_cons_cons, ih, List.map_cons]; rfl

/-- Behind a token of a text there is white space, and then the tokens that follow it with the white
space in front of each. -/
theorem exists_spacing {pos : Nat} {ts : List Token} (h : Token.Spans text pos ts) {t : Token}
    (ht : t.stop = pos) :
    let between := List.zipWith (separator text.toArray true) (t :: ts) ts
    (∀ gap ∈ between, ∀ c ∈ gap, isBlank c = true) ∧ ∃ tail, (∀ c ∈ tail, isBlank c = true) ∧
      text.drop pos = plain (between.zip ts) ++ tail := by
  induction ts generalizing pos t with
  | nil => exact ⟨by simp, text.drop pos, h.rest_blank, rfl⟩
  | cons u ts ih =>
    obtain ⟨n, gap, w, hu, hblank, rfl, hdrop, hrest⟩ := h.exists_gap
    have hstop : u.stop = (pos + gap.length + w.length : Nat) := by simp [hu]
    obtain ⟨hothers, tail, htail, hlater⟩ := ih hrest hstop
    have hgap : separator text.toArray true t u = gap := by
      rw [separator, if_pos rfl, ht, hu]
      exact slice_of_drop hdrop
    rw [List.zipWith_cons_cons, hgap]
    refine ⟨List.forall_mem_cons.2 ⟨hblank, hothers⟩, tail, htail, ?_⟩
    rw [hdrop, hlater]
    simp [plain, hu]

/-- Of a text the white space at its ends is in no gap, and the rest is in gaps and tokens. -/
theorem exists_spacing_ofText (text : List Char) :
    (∀ gap ∈ gaps text true (Token.ofText text), ∀ c ∈ gap, isBlank c = true) ∧
      ∃ lead tail, (∀ c ∈ lead, isBlank c = true) ∧ (∀ c ∈ tail, isBlank c = true) ∧
        text = lead ++ plain (separated text true (Token.ofText text)) ++ tail := by
  have hspans := Token.spans_ofText text
  cases hts : Token.ofText text with
  | nil =>
    rw [hts] at hspans
    exact ⟨by simp [gaps], text, [], hspans.rest_blank, by simp, by simp [separated, plain]⟩
  | cons t ts =>
    rw [hts] at hspans
    obtain ⟨n, lead, w, ht, hlead, rfl, hdrop, hrest⟩ := hspans.exists_gap
    have hstop : t.stop = (0 + lead.length + w.length : Nat) := by simp [ht]
    obtain ⟨hblank, tail, htail, hlater⟩ := exists_spacing hrest hstop
    refine ⟨List.forall_mem_cons.2 ⟨by simp, hblank⟩, lead, tail, hlead, htail, ?_⟩
    have hplain : plain (separated text true (t :: ts)) = t.text ++
        plain ((List.zipWith (separator text.toArray true) (t :: ts) ts).zip ts) := rfl
    rw [hplain, List.append_assoc, List.append_assoc, ← hlater, ht]
    exact hdrop

/-- Tokens with gaps between them begin and end as tokens do. -/
theorem plain_ends (hpieces : ∀ x ∈ pieces, x.2.text ≠ [] ∧ ∀ c ∈ x.2.text, isBlank c = false)
    (hfirst : ∀ x ∈ pieces.head?, x.1 = []) :
    (∀ c ∈ (plain pieces).head?, isBlank c = false) ∧
      ∀ c ∈ (plain pieces).getLast?, isBlank c = false := by
  constructor
  · cases pieces with
    | nil => simp [plain]
    | cons x rest =>
      obtain ⟨sep, t⟩ := x
      obtain rfl : sep = [] := hfirst _ rfl
      obtain ⟨hne, hblank⟩ := hpieces ([], t) List.mem_cons_self
      obtain ⟨c, w, htext⟩ := List.exists_cons_of_ne_nil hne
      have hc := hblank c (htext ▸ List.mem_cons_self)
      have hplain : plain (([], t) :: rest) = t.text ++ plain rest := rfl
      rw [hplain, htext]
      simpa using hc
  · obtain rfl | ⟨before, ⟨sep, t⟩, rfl⟩ := pieces.eq_nil_or_concat'
    · simp [plain]
    · obtain ⟨hne, hblank⟩ := hpieces (sep, t) (by simp)
      obtain ⟨w, c, htext⟩ := (List.eq_nil_or_concat' t.text).resolve_left hne
      have hc := hblank c (htext ▸ by simp)
      have hplain : plain (before ++ [(sep, t)]) = plain before ++ sep ++ w ++ [c] := by
        simp [plain, htext]
      rw [hplain, List.getLast?_concat]
      simpa using hc

/-- With its white space kept, a text loses that at its ends. -/
theorem plain_preserved (text : List Char) :
    plain (separated text true (Token.ofText text)) = strip text := by
  obtain ⟨-, lead, tail, hlead, htail, htext⟩ := exists_spacing_ofText text
  have hpieces : ∀ x ∈ separated text true (Token.ofText text),
      x.2.text ≠ [] ∧ ∀ c ∈ x.2.text, isBlank c = false := fun x hx =>
    Token.solid_of_shape (Token.shape_of_mem_ofText (List.of_mem_zip hx).2)
  have hfirst : ∀ x ∈ (separated text true (Token.ofText text)).head?, x.1 = [] := by
    cases Token.ofText text <;> simp [separated]
  obtain ⟨hhead, hlast⟩ := plain_ends hpieces hfirst
  calc plain (separated text true (Token.ofText text))
      _ = strip (lead ++ plain (separated text true (Token.ofText text)) ++ tail) :=
        (strip_append hlead htail hhead hlast).symm
      _ = strip text := by rw [← htext]

/-- Words with a space in front of all but the first. -/
theorem intercalate_cons (w : List Char) (ws : List (List Char)) :
    [' '].intercalate (w :: ws) = w ++ ws.flatMap (' ' :: ·) := by
  induction ws generalizing w with
  | nil => simp
  | cons v ws ih => rw [List.intercalate_cons_cons, ih, List.flatMap_cons, List.append_assoc]; rfl

/-- With its white space collapsed, a text is its tokens joined by single spaces. -/
theorem plain_collapsed (text : List Char) (ts : List Token) :
    plain (separated text false ts) = [' '].intercalate (ts.map Token.text) := by
  cases ts with
  | nil => rfl
  | cons t ts =>
    rw [separated_collapsed, List.map_cons, intercalate_cons]
    simp [plain, List.flatMap_map]

/-- The tokens of a text under any labels, with the gaps between them. -/
theorem plain_separated (h : us.map Token.unlabelled = (Token.ofText text).map Token.unlabelled)
    (preserve : Bool) : plain (separated text preserve us) =
      if preserve then strip text else [' '].intercalate ((Token.ofText text).map Token.text) := by
  rw [plain_congr h]
  cases preserve with
  | false => exact plain_collapsed text _
  | true => exact plain_preserved text

/-- Pieces with words and marks for tokens, and white space for what stands in front of them. -/
def Spaced (pieces : List (List Char × Token)) : Prop :=
  ∀ x ∈ pieces, (∀ c ∈ x.1, isBlank c = true) ∧ (Token.IsMark x.2.text ∨ Token.IsWordText x.2.text)

theorem spaced_separated (h : us.map Token.unlabelled = (Token.ofText text).map Token.unlabelled)
    (preserve : Bool) : Spaced (separated text preserve us) := by
  have hgaps : ∀ gap ∈ gaps text preserve (Token.ofText text), ∀ c ∈ gap, isBlank c = true := by
    cases preserve with
    | true => exact (exists_spacing_ofText text).1
    | false =>
      intro gap hgap
      obtain rfl | hgap := List.mem_cons.1 hgap
      · simp
      · rw [← List.map_uncurry_zip_eq_zipWith] at hgap
        obtain ⟨x, -, rfl⟩ := List.mem_map.1 hgap
        have hspace : isBlank ' ' = true := by decide
        exact List.forall_mem_singleton.2 hspace
  rintro ⟨gap, t⟩ hx
  obtain ⟨hgap, ht⟩ := List.of_mem_zip hx
  refine ⟨hgaps gap ?_, ?_⟩
  · rwa [← gaps_congr h]
  · obtain ⟨u, hu, hut⟩ := List.mem_map.1 (h ▸ List.mem_map_of_mem (f := Token.unlabelled) ht)
    have htext := congrArg Token.text hut
    rw [Token.text_unlabelled, Token.text_unlabelled] at htext
    exact htext ▸ Token.shape_of_mem_ofText hu

end

end Markup

end LineTagger
