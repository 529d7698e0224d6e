import LineTagger.Text.Ranges

/-!
White space, and the cut of white space from the ends of a text.
-/

namespace LineTagger

/-- White space: the separators of category Z and the characters of bidirectional class WS, B or S. -/
def blankRanges : Ranges := [
  (9, 13), (28, 32), (133, 133), (160, 160), (5760, 5760), (8192, 8202), (8232, 8233), (8239,
  8239), (8287, 8287), (12288, 12288)]

/-- Whether a character is white space. -/
def isBlank (c : Char) : Bool := blankRanges.has c.toNat

/-- Cuts the white space from both ends. -/
def strip (s : List Char) : List Char :=
  (((s.dropWhile isBlank).reverse).dropWhile isBlank).reverse

/-- White space at the ends is all that is cut. -/
theorem strip_append {lead s tail : List Char} (hlead : ∀ c ∈ lead, isBlank c = true)
    (htail : ∀ c ∈ tail, isBlank c = true) (hfirst : ∀ c ∈ s.head?, isBlank c = false)
    (hlast : ∀ c ∈ s.getLast?, isBlank c = false) : strip (lead ++ s ++ tail) = s := by
  have hkept {s : List Char} (h : ∀ c ∈ s.head?, isBlank c = false) (rest : List Char) (hs : s ≠ []) :
      (s ++ rest).dropWhile isBlank = s ++ rest := by
    obtain ⟨c, s, rfl⟩ := List.exists_cons_of_ne_nil hs
    rw [List.cons_append, List.dropWhile_cons, h c rfl]
    rfl
  rw [strip, List.append_assoc, List.dropWhile_append_of_pos hlead]
  by_cases hs : s = []
  · subst hs
    have hnone : (tail ++ []).dropWhile isBlank = [] := List.dropWhile_append_of_pos htail
    rw [List.append_nil] at hnone
    rw [List.nil_append, hnone]
    rfl
  · have hreverse : (s.reverse ++ []).dropWhile isBlank = s.reverse ++ [] := by
      apply hkept
      · rwa [List.head?_reverse]
      · simpa using hs
    have htail' : ∀ c ∈ tail.reverse, isBlank c = true := fun c hc => htail c (List.mem_reverse.1 hc)
    rw [List.append_nil] at hreverse
    rw [hkept hfirst tail hs, List.reverse_append, List.dropWhile_append_of_pos htail', hreverse,
      List.reverse_reverse]

end LineTagger
