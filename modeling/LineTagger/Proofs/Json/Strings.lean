import LineTagger.Proofs.Json.Grammar

/-!
The reader of strings takes just what stands for a text between two quotes.
-/

namespace LineTagger.Json

variable {opened s w t u rest ds es : List Char} {c : Char} {n m fuel : Nat}

theorem length_of_fourHex? (h : fourHex? ds = some (n, [])) : ds.length = 4 := by
  unfold fourHex? at h
  split at h
  · simp only [Option.bind_eq_bind, Option.bind_eq_some_iff] at h
    obtain ⟨_, -, _, -, _, -, _, -, heq⟩ := h
    cases heq
    rfl
  · cases h

theorem fourHex?_append (h : fourHex? ds = some (n, [])) (s : List Char) : fourHex? (ds ++ s) = some (n, s) :=
  fourHex?_eq_some_iff.2 ⟨ds, rfl, h⟩

/-- A low surrogate whose escape ends within a string. -/
theorem StartsLow.exists_fourHex? (h : StartsLow w) (rest : List Char) : ∃ more m r,
    w ++ '"' :: rest = '\\' :: 'u' :: more ∧ 4 < more.length ∧ fourHex? more = some (m, r) ∧
      isLowSurrogate m = true := by
  obtain ⟨ds, m, v, rfl, hds, hlow⟩ := h
  have hlength := length_of_fourHex? hds
  refine ⟨ds ++ (v ++ '"' :: rest), m, v ++ '"' :: rest, by simp, ?_, fourHex?_append hds _, hlow⟩
  simp only [List.length_append, List.length_cons]
  omega

/-- What an escape of four digits gives: one character, of one surrogate or of two. -/
theorem unicodeEscape_cases (h : unicodeEscape ('u' :: s) = .ok (c, rest)) :
    ∃ ds n, fourHex? ds = some (n, []) ∧
      ((s = ds ++ rest ∧ c = charOf n ∧
          (isHighSurrogate n = true → ∀ w x, rest = w ++ '"' :: x → ¬StartsLow w)) ∨
        ∃ es m, s = ds ++ '\\' :: 'u' :: (es ++ rest) ∧ fourHex? es = some (m, []) ∧
          isHighSurrogate n = true ∧ isLowSurrogate m = true ∧ c = charOfPair n m) := by
  unfold unicodeEscape at h
  rw [List.tail_cons] at h
  split at h
  · cases h
  · cases h
  · next n r hne hs =>
    obtain ⟨ds, rfl, hds⟩ := fourHex?_eq_some_iff.1 hs
    refine ⟨ds, n, hds, ?_⟩
    split at h
    · next hhigh =>
      cases h
      exact .inl ⟨rfl, rfl, fun h => absurd h (by simpa using hhigh)⟩
    · next hhigh =>
      rw [Bool.not_eq_true', Bool.not_eq_false] at hhigh
      split at h
      · next more =>
        split at h
        · next hshort =>
          cases h
          refine .inl ⟨rfl, rfl, fun _ w x heq hlow => ?_⟩
          obtain ⟨more', m, r, hmore, hlength, -⟩ := hlow.exists_fourHex? x
          rw [← heq] at hmore
          cases hmore
          omega
        · split at h
          · cases h
          · next m r hm =>
            split at h
            · next hlow =>
              obtain ⟨hc, rfl⟩ := Prod.mk.inj (Except.ok.inj h)
              obtain ⟨es, rfl, hes⟩ := fourHex?_eq_some_iff.1 hm
              exact .inr ⟨es, m, rfl, hes, hhigh, hlow, hc.symm⟩
            · next hlow =>
              cases h
              refine .inl ⟨rfl, rfl, fun _ w x heq hstart => ?_⟩
              obtain ⟨more', m', r', hmore, -, hm', hlow'⟩ := hstart.exists_fourHex? x
              rw [← heq] at hmore
              cases hmore
              rw [hm] at hm'
              cases hm'
              exact hlow hlow'
      · next hother =>
        cases h
        refine .inl ⟨rfl, rfl, fun _ w x heq hlow => ?_⟩
        obtain ⟨more, -, -, hmore, -⟩ := hlow.exists_fourHex? x
        exact hother more (heq.trans hmore)

/-- What is read up to the closing quote stands for the text. -/
theorem exists_of_readString {acc : List Char} (h : readString opened fuel acc s = .ok (t, rest)) :
    ∃ w u, s = w ++ '"' :: rest ∧ Spells w u ∧ t = acc.reverse ++ u := by
  induction fuel generalizing acc s with
  | zero => cases h
  | succ fuel ih =>
    rw [readString.eq_def] at h
    dsimp only at h
    split at h
    · cases h
    · cases h
      exact ⟨[], [], rfl, .nil, (List.append_nil _).symm⟩
    · cases h
    · next c s _ =>
      split at h
      · next hc =>
        subst hc
        split at h
        · cases h
        · next d s' hescape =>
          obtain ⟨w, u, rfl, hw, rfl⟩ := ih h
          obtain ⟨ds, n, hds, ⟨rfl, hd, hlone⟩ | ⟨es, m, rfl, hes, hhigh, hlow, hd⟩⟩ := unicodeEscape_cases hescape
          · have hspells := Spells.unicode hds (fun hhigh => hlone hhigh w rest rfl) hw
            exact ⟨_, _, by simp, hspells, by simp [hd]⟩
          · have hspells := Spells.pair hds hes hhigh hlow hw
            exact ⟨_, _, by simp, hspells, by simp [hd]⟩
      · split at h
        · cases h
        · next d hd =>
          obtain ⟨w, u, rfl, hw, rfl⟩ := ih h
          refine ⟨_, _, ?_, .letter hd hw, ?_⟩ <;> simp
    · next c s hquote _ hescape =>
      split at h
      · cases h
      · next hcontrol =>
        obtain ⟨w, u, rfl, hw, rfl⟩ := ih h
        refine ⟨c :: w, c :: u, rfl, .char ?_ ?_ (by omega) hw, by simp⟩
        · exact hquote
        · rintro rfl
          cases hrest : w ++ '"' :: rest with
          | nil => simp at hrest
          | cons d r => exact hescape d r rfl hrest

/-- An escape of four digits that is written in a string has them before the closing quote. -/
theorem Spells.exists_digits {more : List Char} (h : Spells w t) (heq : w ++ '"' :: rest = '\\' :: 'u' :: more) :
    ∃ ds m v, w = '\\' :: 'u' :: (ds ++ v) ∧ fourHex? ds = some (m, []) ∧ more = ds ++ (v ++ '"' :: rest) := by
  cases h with
  | nil => exact absurd (List.cons.inj heq).1 (by decide)
  | char _ hescape => exact absurd (List.cons.inj heq).1 hescape
  | letter he =>
    simp only [List.cons_append, List.cons.injEq, true_and] at heq
    rw [heq.1] at he
    cases he
  | unicode hds | pair hds => exact ⟨_, _, _, rfl, hds, by simpa using heq.symm⟩

theorem unicodeEscape_lone (hds : fourHex? ds = some (n, []))
    (hlone : isHighSurrogate n = true → ¬StartsLow w) (hw : Spells w t) (rest : List Char) :
    unicodeEscape ('u' :: (ds ++ (w ++ '"' :: rest))) = .ok (charOf n, w ++ '"' :: rest) := by
  obtain ⟨d, r, hr⟩ : ∃ d r, w ++ '"' :: rest = d :: r := List.exists_cons_of_ne_nil (by simp)
  rw [unicodeEscape, List.tail_cons, fourHex?_append hds, hr]
  dsimp only
  cases hhigh : isHighSurrogate n with
  | false => rfl
  | true =>
    rw [Bool.not_true, if_neg (by decide)]
    -- a high surrogate looks for a low one in the escape behind it, of which all digits are in the string
    split
    · next more heq =>
      obtain ⟨es, m, v, rfl, hes, rfl⟩ := hw.exists_digits (hr.trans heq)
      have hlow : ¬isLowSurrogate m = true := fun hlow => hlone hhigh ⟨es, m, v, rfl, hes, hlow⟩
      rw [fourHex?_append hes]
      dsimp only
      rw [if_neg hlow, ite_self]
    · rfl

theorem unicodeEscape_pair (hds : fourHex? ds = some (n, [])) (hes : fourHex? es = some (m, []))
    (hhigh : isHighSurrogate n = true) (hlow : isLowSurrogate m = true) (hs : s ≠ []) :
    unicodeEscape ('u' :: (ds ++ '\\' :: 'u' :: (es ++ s))) = .ok (charOfPair n m, s) := by
  have hlength : ¬(es ++ s).length ≤ 4 := by
    have hdigits := length_of_fourHex? hes
    have hpos := List.length_pos_iff.2 hs
    rw [List.length_append]
    omega
  rw [unicodeEscape, List.tail_cons, fourHex?_append hds]
  simp only [hhigh, Bool.not_true, Bool.false_eq_true, if_false, hlength, fourHex?_append hes, hlow, if_true]
  rfl

theorem readString_char (hquote : c ≠ '"') (hescape : c ≠ '\\') (hcontrol : 0x20 ≤ c.toNat) (acc s : List Char) :
    readString opened (fuel + 1) acc (c :: s) = readString opened fuel (c :: acc) s := by
  rw [readString.eq_6 _ _ _ _ _ hquote (fun h => absurd h hescape) (fun _ _ h => absurd h hescape),
    if_neg (Nat.not_lt.2 hcontrol)]

/-- What follows a backslash is four digits behind the letter for them, or a letter that stands for a character. -/
theorem readString_backslash (acc : List Char) (e : Char) (s : List Char) :
    readString opened (fuel + 1) acc ('\\' :: e :: s) =
      if e = 'u' then
        match unicodeEscape (e :: s) with
        | .error f => .error f
        | .ok (c, rest) => readString opened fuel (c :: acc) rest
      else match letterEscape? e with
        | none => .error (.misread .badEscape ('\\' :: e :: s))
        | some c => readString opened fuel (c :: acc) s := rfl

theorem readString_letter {e : Char} (he : letterEscape? e = some c) (acc s : List Char) :
    readString opened (fuel + 1) acc ('\\' :: e :: s) = readString opened fuel (c :: acc) s := by
  have hu : e ≠ 'u' := by
    rintro rfl
    cases he
  rw [readString_backslash, if_neg hu, he]

theorem readString_unicode (h : unicodeEscape ('u' :: s) = .ok (c, rest)) (acc : List Char) :
    readString opened (fuel + 1) acc ('\\' :: 'u' :: s) = readString opened fuel (c :: acc) rest := by
  rw [readString_backslash, if_pos rfl, h]

/-- What stands for a text is read up to the closing quote. -/
theorem readString_of_spells (h : Spells w t) (hfuel : w.length < fuel) (acc rest : List Char) :
    readString opened fuel acc (w ++ '"' :: rest) = .ok (acc.reverse ++ t, rest) := by
  induction h generalizing fuel acc with
  | nil =>
    obtain ⟨fuel, rfl⟩ := Nat.exists_eq_add_one.2 hfuel
    rw [List.append_nil]
    rfl
  | char hquote hescape hcontrol _ ih =>
    obtain ⟨fuel, rfl⟩ := Nat.exists_eq_add_one.2 (Nat.zero_lt_of_lt hfuel)
    rw [List.cons_append, readString_char hquote hescape hcontrol, ih (by simpa using hfuel)]
    simp
  | letter he _ ih =>
    obtain ⟨fuel, rfl⟩ := Nat.exists_eq_add_one.2 (Nat.zero_lt_of_lt hfuel)
    simp only [List.length_cons] at hfuel
    rw [List.cons_append, List.cons_append, readString_letter he, ih (by omega)]
    simp
  | unicode hds hlone hw ih =>
    obtain ⟨fuel, rfl⟩ := Nat.exists_eq_add_one.2 (Nat.zero_lt_of_lt hfuel)
    simp only [List.length_cons, List.length_append] at hfuel
    have hescape := unicodeEscape_lone hds hlone hw rest
    rw [List.cons_append, List.cons_append, List.append_assoc, readString_unicode hescape, ih (by omega)]
    simp
  | @pair ds es w t n m hds hes hhigh hlow _ ih =>
    obtain ⟨fuel, rfl⟩ := Nat.exists_eq_add_one.2 (Nat.zero_lt_of_lt hfuel)
    simp only [List.length_cons, List.length_append] at hfuel
    have hescape := unicodeEscape_pair hds hes hhigh hlow (s := w ++ '"' :: rest) (by simp)
    have hwritten : '\\' :: 'u' :: (ds ++ '\\' :: 'u' :: (es ++ w)) ++ '"' :: rest =
        '\\' :: 'u' :: (ds ++ '\\' :: 'u' :: (es ++ (w ++ '"' :: rest))) := by
      simp
    rw [hwritten, readString_unicode hescape, ih (by omega)]
    simp

end LineTagger.Json
