import LineTagger.Markup

/-!
Where the line feeds of an annotated text come from. The text between tokens and the tokens bring those
that they have; a label brings its own, but not as an attribute.
-/

namespace LineTagger.Markup

theorem lineFeed_mem_escapeChar {c : Char} : '\n' ∈ escapeChar c ↔ c = '\n' := by
  unfold escapeChar
  split
  case h_4 => rw [List.mem_singleton, eq_comm]
  all_goals decide

theorem lineFeed_mem_escape {s : List Char} : '\n' ∈ escape s ↔ '\n' ∈ s := by
  simp [escape, List.mem_flatMap, lineFeed_mem_escapeChar]

theorem lineFeed_notMem_attributeChar (c : Char) : '\n' ∉ attributeChar c := by
  unfold attributeChar
  split
  case h_4 hfeed _ _ => rwa [lineFeed_mem_escapeChar]
  all_goals decide

theorem lineFeed_notMem_between {quote : Char} (hquote : '\n' ≠ quote) {body : List Char}
    (h : '\n' ∉ body) : '\n' ∉ quote :: body ++ [quote] := by
  rw [List.cons_append, List.mem_cons, List.mem_append, List.mem_singleton]
  exact fun hmem => hmem.elim hquote fun hmem => hmem.elim h hquote

theorem lineFeed_notMem_quotedAttribute (s : List Char) : '\n' ∉ quotedAttribute s := by
  have hbody : '\n' ∉ s.flatMap attributeChar := by
    simp [List.mem_flatMap, lineFeed_notMem_attributeChar]
  have hquoted : '\n' ∉ (s.flatMap attributeChar).flatMap
      fun c => if c = '"' then "&quot;".toList else [c] := by
    rw [List.mem_flatMap]
    rintro ⟨c, hc, hfeed⟩
    split at hfeed
    · exact absurd hfeed (by decide)
    · rw [List.mem_singleton] at hfeed
      exact hbody (hfeed ▸ hc)
  unfold quotedAttribute
  generalize s.flatMap attributeChar = body at hbody hquoted ⊢
  dsimp only
  split
  · split
    · exact lineFeed_notMem_between (by decide) hquoted
    · exact lineFeed_notMem_between (by decide) hbody
  · exact lineFeed_notMem_between (by decide) hbody

theorem isDigit_of_mem_toString {n : Nat} {c : Char} (h : c ∈ (toString n).toList) : c.isDigit = true := by
  have hdigits : (toString n).toList = Nat.toDigits 10 n := by simp
  rw [hdigits] at h
  exact Nat.isDigit_of_mem_toDigits (by decide) (by decide) h

theorem lineFeed_notMem_toString (n : Nat) : '\n' ∉ (toString n).toList := fun hmem =>
  absurd (isDigit_of_mem_toString hmem) (by decide)

variable {pieces : List (List Char × Token)}

/-- Pieces of a text without a line feed. -/
def Clean (pieces : List (List Char × Token)) : Prop :=
  ∀ x ∈ pieces, '\n' ∉ x.1 ∧ '\n' ∉ x.2.text

theorem lineFeed_mem_slashTags (h : Clean pieces) :
    '\n' ∈ slashTags pieces ↔ ∃ x ∈ pieces, '\n' ∈ x.2.label := by
  rw [slashTags, List.mem_flatMap]
  refine exists_congr fun x => and_congr_right fun hx => ?_
  simp [h x hx]

theorem lineFeed_notMem_element {i : Nat} {t : Token} (h : '\n' ∉ t.text) : '\n' ∉ element i t := by
  have hattribute := lineFeed_notMem_quotedAttribute t.label
  have hnumber := lineFeed_notMem_toString i
  have hnum : '\n' ∉ "<wi num=\"".toList := by decide
  have hentity : '\n' ∉ "\" entity=".toList := by decide
  have hend : '\n' ∉ "</wi>".toList := by decide
  rw [← lineFeed_mem_escape] at h
  unfold element
  simp only [List.mem_append, List.mem_cons, not_or]
  exact ⟨⟨⟨⟨⟨hnum, hnumber⟩, hentity⟩, hattribute⟩, by decide, h⟩, hend⟩

theorem lineFeed_notMem_xml (h : Clean pieces) : '\n' ∉ xml pieces := by
  rw [xml, List.mem_flatMap]
  rintro ⟨⟨⟨sep, t⟩, i⟩, hx, hfeed⟩
  obtain ⟨hsep, htext⟩ := h (sep, t) (List.fst_mem_of_mem_zipIdx hx)
  exact (List.mem_append.1 hfeed).elim hsep (lineFeed_notMem_element htext)

theorem lineFeed_mem_closing {current : Option (List Char)} :
    '\n' ∈ closing current ↔ ∃ l ∈ current, '\n' ∈ l := by
  cases current <;> simp [closing, closeTag]

theorem lineFeed_mem_inlineXml (h : Clean pieces) (background : List Char)
    (current : Option (List Char)) : '\n' ∈ inlineXml background current pieces ↔
      (∃ l ∈ current, '\n' ∈ l) ∨ ∃ x ∈ pieces, ∃ l ∈ entity? background x.2, '\n' ∈ l := by
  -- on the pieces; what is open is closed sooner or later, and so shows its label
  induction pieces generalizing current with
  | nil => simp [inlineXml, lineFeed_mem_closing]
  | cons x rest ih =>
    obtain ⟨hsep, htext⟩ := h x List.mem_cons_self
    have hbody := ih (fun y hy => h y (List.mem_cons_of_mem _ hy)) (entity? background x.2)
    rw [← lineFeed_mem_escape] at htext
    simp only [inlineXml, List.mem_cons, exists_eq_or_imp]
    generalize inlineXml background (entity? background x.2) rest = inner at hbody ⊢
    by_cases hsame : entity? background x.2 = current
    · subst hsame
      simp [hsep, htext, hbody, ← or_assoc]
    · rw [if_neg hsame, List.mem_append, List.mem_append, lineFeed_mem_closing]
      cases hlabel : entity? background x.2 with
      | none =>
        rw [hlabel] at hbody
        simp [hsep, htext, hbody]
      | some l =>
        rw [hlabel] at hbody
        simp [hsep, htext, hbody, openTag]

end LineTagger.Markup
