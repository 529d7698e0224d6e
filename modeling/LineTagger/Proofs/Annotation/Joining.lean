import LineTagger.Proofs.Annotation.Respacing

/-!
Texts joined by white space. White space ends a word and whatever else is looked at beyond it, so the tokens
of such a text are those of its parts, each at its place; and a token on its own is one token.
-/

namespace LineTagger.Token

/-- A token of a text that stands `n` characters further on. -/
def shifted (n : Nat) (t : Token) : Token := { t with start := t.start + n, stop := t.stop + n }

section

variable {a b w s : List Char} {pos : Nat} {ts us : List Token}

theorem Tiles.shifted (h : Tiles pos s ts) (n : Nat) : Tiles (pos + n) s (ts.map (Token.shifted n)) := by
  induction h with
  | nil => exact .nil
  | blank hc _ ih =>
    rw [Nat.add_right_comm] at ih
    exact .blank hc ih
  | mark hword hblank _ ih =>
    rw [Nat.add_right_comm] at ih
    have hmark := Tiles.mark hword hblank ih
    simpa [Token.shifted, Int.add_right_comm] using hmark
  | word hw hs _ ih =>
    rw [Nat.add_right_comm] at ih
    have hword := Tiles.word hw hs ih
    simpa [Token.shifted, Int.add_right_comm] using hword

theorem startsWord_blank (hw : w ≠ []) (hblank : ∀ c ∈ w, isBlank c = true) (b : List Char) :
    startsWord (w ++ b) = false := by
  obtain ⟨c, w, rfl⟩ := List.exists_cons_of_ne_nil hw
  exact isWord_of_isBlank (hblank c List.mem_cons_self)

/-- What ends a word does so with white space behind it: a connector at the end of a text joins nothing. -/
theorem EndsWord.append_blank (h : EndsWord s) (hw : w ≠ []) (hblank : ∀ c ∈ w, isBlank c = true)
    (b : List Char) : EndsWord (s ++ (w ++ b)) := by
  have hstarts := startsWord_blank hw hblank b
  cases s with
  | nil =>
    obtain ⟨c, w, rfl⟩ := List.exists_cons_of_ne_nil hw
    have hc := hblank c List.mem_cons_self
    refine ⟨hstarts, fun hconnector => ?_⟩
    rw [isBlank_of_isConnector hconnector] at hc
    cases hc
  | cons c rest =>
    obtain ⟨hword, hconnector⟩ := h
    refine ⟨hword, fun hc => ?_⟩
    cases rest with
    | nil => exact hstarts
    | cons d rest => exact hconnector hc

/-- The tokens in front of white space do not depend on what stands behind it. -/
theorem Tiles.append (hw : w ≠ []) (hblank : ∀ c ∈ w, isBlank c = true) (ha : Tiles pos a ts)
    (hb : Tiles (pos + a.length + w.length) b us) : Tiles pos (a ++ (w ++ b)) (ts ++ us) := by
  induction ha with
  | nil => exact .skip (b := w) hblank hb
  | @blank pos c a ts hc _ ih =>
    rw [List.length_cons, ← Nat.add_assoc, Nat.add_right_comm pos] at hb
    exact .blank hc (ih hb)
  | @mark pos c a ts hword hmark _ ih =>
    rw [List.length_cons, ← Nat.add_assoc, Nat.add_right_comm pos] at hb
    exact .mark hword hmark (ih hb)
  | @word pos v a ts hv hends _ ih =>
    rw [List.length_append, ← Nat.add_assoc] at hb
    rw [List.append_assoc]
    exact .word hv (hends.append_blank hw hblank b) (ih hb)

theorem ofText_append (hw : w ≠ []) (hblank : ∀ c ∈ w, isBlank c = true) (a b : List Char) :
    ofText (a ++ w ++ b) = ofText a ++ (ofText b).map (shifted (a.length + w.length)) := by
  have hb := (tiles_scan 0 b).shifted (a.length + w.length)
  rw [← Nat.add_assoc] at hb
  rw [List.append_assoc]
  exact ((tiles_scan 0 a).append hw hblank hb).eq_scan.symm

/-- A word or a mark on its own is one token. -/
theorem ofText_of_shape (h : IsMark w ∨ IsWordText w) :
    ofText w = [{ text := w, start := 0, stop := w.length }] := by
  have hline := ofText_intercalate (List.forall_mem_singleton.2 h)
  rw [List.intercalate_singleton] at hline
  rw [hline, inLine, inLine]
  simp

theorem map_text_inLine (pos : Nat) (ws : List (List Char)) : (inLine pos ws).map text = ws := by
  induction ws generalizing pos with
  | nil => rfl
  | cons w ws ih => rw [inLine, List.map_cons, ih]

end

/-- Texts with white space between them are read as the one and then the other, whatever they end and
begin with. Each token of a text is the one token of its own text, so that tokens joined by single spaces
are read as the same tokens again. -/
theorem ofText_joined (a b : List Char) {w : List Char} (hw : w ≠ [])
    (hblank : ∀ c ∈ w, isBlank c = true) (text : List Char) :
    (∀ c, isBlank c = true → isWord c = false) ∧
    ofText (a ++ w ++ b) = ofText a ++ (ofText b).map (shifted (a.length + w.length)) ∧
    (∀ t ∈ ofText text, ofText t.text = [{ text := t.text, start := 0, stop := t.text.length }]) ∧
    (ofText ([' '].intercalate ((ofText text).map Token.text))).map Token.text =
      (ofText text).map Token.text := by
  have hshape : ∀ v ∈ (ofText text).map Token.text, IsMark v ∨ IsWordText v := by
    intro v hv
    obtain ⟨t, ht, rfl⟩ := List.mem_map.1 hv
    exact shape_of_mem_ofText ht
  refine ⟨fun c => isWord_of_isBlank, ofText_append hw hblank a b, fun t ht => ?_, ?_⟩
  · exact ofText_of_shape (shape_of_mem_ofText ht)
  · rw [ofText_intercalate hshape, map_text_inLine]

/-- A hyphen and an apostrophe at either side of white space join nothing. -/
theorem ofText_joined_connectors :
    let a := "rock-".toList
    let w := "\t\u2003".toList
    let b := "'n'-roll".toList
    w ≠ [] ∧ (∀ c ∈ w, isBlank c = true) ∧
    ofText (a ++ w ++ b) = ofText a ++ (ofText b).map (shifted 7) ∧
    (ofText (a ++ w ++ b)).map text =
      ["rock".toList, ['-'], ['\''], ['n'], ['\''], ['-'], "roll".toList] ∧
    { text := ['n'], start := 8, stop := 9 } ∈ ofText (a ++ w ++ b) ∧
    ofText ['n'] = [{ text := ['n'], start := 0, stop := 1 }] := by
  intro a w b
  have hw : w ≠ [] := by decide
  have hblank : ∀ c ∈ w, isBlank c = true := by decide
  obtain ⟨-, happend, hself, -⟩ := ofText_joined a b hw hblank (a ++ w ++ b)
  have hmem : { text := ['n'], start := 8, stop := 9 } ∈ ofText (a ++ w ++ b) := by decide +kernel
  have htexts : (ofText (a ++ w ++ b)).map text =
      ["rock".toList, ['-'], ['\''], ['n'], ['\''], ['-'], "roll".toList] := by decide +kernel
  exact ⟨hw, hblank, happend, htexts, hmem, hself _ hmem⟩

end LineTagger.Token
