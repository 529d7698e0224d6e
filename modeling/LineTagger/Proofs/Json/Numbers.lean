import LineTagger.Proofs.Json.Grammar

/-!
The reader of numbers takes a sign, digits, a fraction and an exponent, and each as far as it goes.
-/

namespace LineTagger.Json

/-- The minus in front of a number, if there is one. -/
def splitMinus (s : List Char) : Bool × List Char :=
  match s with
  | '-' :: rest => (true, rest)
  | _ => (false, s)

/-- The digits in front of a text: none behind a zero. -/
def wholeOf (s : List Char) : List Char :=
  match s with
  | '0' :: _ => ['0']
  | _ => s.takeWhile Char.isDigit

/-- The digits of the fraction in front of a text. -/
def partOf (s : List Char) : List Char :=
  match s with
  | '.' :: more => more.takeWhile Char.isDigit
  | _ => []

/-- What follows the fraction in front of a text. -/
def afterPart (s : List Char) : List Char := if (partOf s).isEmpty then s else s.drop ((partOf s).length + 1)

/-- The value of a number that is read as these parts, with what follows it. -/
def numberOf (negative : Bool) (whole part rest : List Char) : Option (Int × List Char) → Result Value
  | some (e, rest) =>
    .ok (.double (Double.ofDecimal negative (Numeral.value (whole ++ part)) (e - part.length)), rest)
  | none =>
    if part.isEmpty then
      if whole.length > Numeral.digitLimit then .error (.tooManyDigits whole.length)
      else .ok (.int (signed negative (Numeral.value whole)), rest)
    else .ok (.double (Double.ofDecimal negative (Numeral.value (whole ++ part)) (-(part.length : Int))), rest)

theorem readNumber_eq (s : List Char) : readNumber s =
    if (wholeOf (splitMinus s).2).isEmpty then .error (.misread .noValue s)
    else
      let rest := (splitMinus s).2.drop (wholeOf (splitMinus s).2).length
      numberOf (splitMinus s).1 (wholeOf (splitMinus s).2) (partOf rest) (afterPart rest)
        (readExponent (afterPart rest)) := rfl

/-- Text that digits do not go on with. -/
def NoDigit (s : List Char) : Prop := ∀ c ∈ s.head?, c.isDigit = false

section

variable {s w ds part fraction exponent rest : List Char} {v : Value} {e : Int} {negative : Bool}

theorem Ends.noDigit (h : Ends s) : NoDigit s := by
  intro c hc
  rcases h c hc with hblank | hsign
  · by_contra hdigit
    simp only [isBlank, Bool.or_eq_true, decide_eq_true_eq] at hblank
    rcases hblank with ((rfl | rfl) | rfl) | rfl <;> exact hdigit (by decide)
  · have hsigns : ∀ c ∈ signs, c.isDigit = false := by decide
    exact hsigns c hsign

theorem Ends.head?_ne {c : Char} (h : Ends s) (hc : isBlank c = false) (hsign : c ∉ signs) : s.head? ≠ some c := by
  intro heq
  rcases h c heq with hblank | hmem
  · rw [hc] at hblank
    cases hblank
  · exact hsign hmem

theorem takeWhile_isDigit_append (hds : ∀ c ∈ ds, c.isDigit = true) (h : NoDigit rest) :
    (ds ++ rest).takeWhile Char.isDigit = ds := by
  rw [List.takeWhile_append_of_pos hds]
  cases rest with
  | nil => simp
  | cons c rest => simp [h c rfl]

theorem dropWhile_isDigit_append (hds : ∀ c ∈ ds, c.isDigit = true) (h : NoDigit rest) :
    (ds ++ rest).dropWhile Char.isDigit = rest := by
  rw [List.dropWhile_append_of_pos hds]
  cases rest with
  | nil => rfl
  | cons c rest => simp [h c rfl]

theorem isDigit_of_mem_takeWhile : ∀ c ∈ s.takeWhile Char.isDigit, c.isDigit = true :=
  List.all_eq_true.1 List.all_takeWhile

theorem minus_append_splitMinus (s : List Char) : minus (splitMinus s).1 ++ (splitMinus s).2 = s := by
  unfold splitMinus
  split <;> rfl

theorem splitMinus_append (hs : s.head? ≠ some '-') : splitMinus (minus negative ++ s) = (negative, s) := by
  cases negative with
  | true => rfl
  | false =>
    cases s with
    | nil => rfl
    | cons c s =>
      have hc : c ≠ '-' := fun heq => hs (heq ▸ rfl)
      simp [minus, splitMinus, hc]

theorem wholeOf_append_drop (s : List Char) : wholeOf s ++ s.drop (wholeOf s).length = s := by
  unfold wholeOf
  split
  · rfl
  · exact List.prefix_iff_eq_append.1 (List.takeWhile_prefix _)

theorem isWhole_wholeOf (h : wholeOf s ≠ []) : IsWhole (wholeOf s) := by
  unfold wholeOf at h ⊢
  split
  · exact .inl rfl
  · next hzero =>
    split at h
    · exact absurd rfl (hzero _)
    · refine .inr ⟨⟨h, isDigit_of_mem_takeWhile⟩, fun heq => ?_⟩
      cases s with
      | nil => cases heq
      | cons c s =>
        rw [List.takeWhile_cons] at heq
        split at heq
        · exact hzero s (Option.some.inj heq ▸ rfl)
        · cases heq

theorem wholeOf_append (hds : IsWhole ds) (h : NoDigit rest) : wholeOf (ds ++ rest) = ds := by
  rcases hds with rfl | ⟨⟨hne, hds⟩, hzero⟩
  · rfl
  · have htake := takeWhile_isDigit_append hds h
    obtain ⟨c, ds, rfl⟩ := List.exists_cons_of_ne_nil hne
    have hc : c ≠ '0' := fun heq => hzero (heq ▸ rfl)
    unfold wholeOf
    split
    · next heq => exact absurd (List.cons.inj heq).1 hc
    · exact htake

theorem exists_fraction (s : List Char) :
    ∃ fraction, s = fraction ++ afterPart s ∧ IsFraction fraction (partOf s) := by
  unfold afterPart
  by_cases hpart : partOf s = []
  · rw [hpart]
    exact ⟨[], rfl, .none⟩
  · have hempty : ¬(partOf s).isEmpty = true := by simpa using hpart
    rw [if_neg hempty]
    unfold partOf at hpart ⊢
    split at hpart
    · next more =>
      have hdigits : IsDigits (more.takeWhile Char.isDigit) := ⟨hpart, isDigit_of_mem_takeWhile⟩
      refine ⟨'.' :: more.takeWhile Char.isDigit, ?_, .some hdigits⟩
      rw [List.drop_succ_cons, List.cons_append]
      exact congrArg ('.' :: ·) (List.prefix_iff_eq_append.1 (List.takeWhile_prefix _)).symm
    · exact absurd rfl hpart

theorem partOf_append (hfraction : IsFraction fraction part) (h : NoDigit rest)
    (hpoint : fraction = [] → rest.head? ≠ some '.') :
    partOf (fraction ++ rest) = part ∧ afterPart (fraction ++ rest) = rest := by
  have hpart : partOf (fraction ++ rest) = part := by
    cases hfraction with
    | none =>
      have hhead := hpoint rfl
      rw [List.nil_append]
      unfold partOf
      split
      · exact absurd rfl hhead
      · rfl
    | some hds => exact takeWhile_isDigit_append hds.2 h
  refine ⟨hpart, ?_⟩
  rw [afterPart, hpart]
  cases hfraction with
  | none => rfl
  | some hds => simp [hds.1]

theorem exists_sign (s : List Char) :
    ∃ sign, (sign, (Numeral.sign s).1) ∈ exponentSigns ∧ s = sign ++ (Numeral.sign s).2 := by
  have hminus : (['-'], true) ∈ exponentSigns := by decide
  have hplus : (['+'], false) ∈ exponentSigns := by decide
  have hnone : ([], false) ∈ exponentSigns := by decide
  unfold Numeral.sign
  split
  · exact ⟨['-'], hminus, rfl⟩
  · exact ⟨['+'], hplus, rfl⟩
  · exact ⟨[], hnone, rfl⟩

theorem sign_append {sign : List Char} (hsign : (sign, negative) ∈ exponentSigns) (hds : IsDigits ds) :
    Numeral.sign (sign ++ (ds ++ rest)) = (negative, ds ++ rest) := by
  obtain ⟨c, ds, rfl⟩ := List.exists_cons_of_ne_nil hds.1
  have hc : c.isDigit = true := hds.2 c List.mem_cons_self
  simp only [exponentSigns, List.mem_cons, Prod.mk.injEq, List.not_mem_nil, or_false] at hsign
  obtain ⟨rfl, rfl⟩ | ⟨rfl, rfl⟩ | ⟨rfl, rfl⟩ := hsign
  · have hminus : c ≠ '-' := by
      rintro rfl
      cases hc
    have hplus : c ≠ '+' := by
      rintro rfl
      cases hc
    simp [Numeral.sign, hminus, hplus]
  · rfl
  · rfl

/-- What is read of an exponent, and what the exponent leaves. -/
theorem exists_exponent (h : readExponent s = some (e, rest)) :
    ∃ exponent, s = exponent ++ rest ∧ IsExponent exponent e ∧ exponent ≠ [] := by
  unfold readExponent at h
  split at h
  · next c s =>
    split at h
    · next hc =>
      dsimp only at h
      split at h
      · cases h
      · next hne =>
        cases h
        obtain ⟨sign, hsign, hs⟩ := exists_sign s
        have hdigits : IsDigits ((Numeral.sign s).2.takeWhile Char.isDigit) :=
          ⟨by simpa using hne, isDigit_of_mem_takeWhile⟩
        refine ⟨_, ?_, .some hc hsign hdigits, List.cons_ne_nil _ _⟩
        rw [List.cons_append, List.append_assoc, List.takeWhile_append_dropWhile, ← hs]
    · cases h
  · cases h

theorem readExponent_append (hexponent : IsExponent exponent e) (hne : exponent ≠ []) (h : NoDigit rest) :
    readExponent (exponent ++ rest) = some (e, rest) := by
  cases hexponent with
  | none => exact absurd rfl hne
  | some he hsign hds =>
    rw [List.cons_append, List.append_assoc, readExponent, if_pos he]
    dsimp only
    rw [sign_append hsign hds, takeWhile_isDigit_append hds.2 h, dropWhile_isDigit_append hds.2 h,
      if_neg (by simpa using hds.1)]
    rfl

theorem readExponent_eq_none (hs : s.head? ≠ some 'e' ∧ s.head? ≠ some 'E') : readExponent s = none := by
  cases s with
  | nil => rfl
  | cons c s =>
    have hc : ¬(c = 'e' ∨ c = 'E') := by simpa using hs
    rw [readExponent, if_neg hc]

/-- What is read as a number is one. -/
theorem exists_of_readNumber (h : readNumber s = .ok (v, rest)) : ∃ w, s = w ++ rest ∧ IsNumber w v := by
  rw [readNumber_eq] at h
  split at h
  · cases h
  · next hne =>
    have hwhole : IsWhole (wholeOf (splitMinus s).2) := isWhole_wholeOf (by simpa using hne)
    have hminus := minus_append_splitMinus s
    have hdigits := wholeOf_append_drop (splitMinus s).2
    generalize wholeOf (splitMinus s).2 = whole at *
    dsimp only at h
    generalize (splitMinus s).2.drop whole.length = more at *
    obtain ⟨fraction, hmore, hfraction⟩ := exists_fraction more
    generalize (splitMinus s).1 = negative at *
    cases hexponent : readExponent (afterPart more) with
    | some x =>
      obtain ⟨e, r⟩ := x
      obtain ⟨exponent, hafter, he, hsome⟩ := exists_exponent hexponent
      rw [hexponent] at h
      cases h
      refine ⟨_, ?_, .decimal negative hwhole hfraction he (.inr hsome)⟩
      rw [← hminus, ← hdigits, hmore, hafter]
      simp
    | none =>
      rw [hexponent] at h
      unfold numberOf at h
      dsimp only at h
      split at h
      · split at h
        · cases h
        · next hempty hlength =>
          obtain ⟨hv, hrest⟩ := Prod.mk.inj (Except.ok.inj h)
          have hafter : afterPart more = more := if_pos hempty
          rw [← hv, ← hrest, hafter]
          refine ⟨_, ?_, .whole negative hwhole (Nat.le_of_not_lt hlength)⟩
          rw [← hminus, ← hdigits, List.append_assoc]
      · next hpart =>
        obtain ⟨hv, hrest⟩ := Prod.mk.inj (Except.ok.inj h)
        have hsome : fraction ≠ [] := by
          intro hnil
          generalize partOf more = part at hfraction hpart
          cases hfraction with
          | none => exact hpart rfl
          | some => cases hnil
        have hdecimal := IsNumber.decimal negative hwhole hfraction .none (.inl hsome)
        rw [Int.zero_sub] at hdecimal
        rw [← hv, ← hrest]
        refine ⟨_, ?_, hdecimal⟩
        rw [← hminus, ← hdigits]
        simp [← hmore]

theorem IsDigits.head?_append (hds : IsDigits ds) (s : List Char) : (ds ++ s).head? ≠ some '-' := by
  obtain ⟨c, ds, rfl⟩ := List.exists_cons_of_ne_nil hds.1
  have hc : c.isDigit = true := hds.2 c List.mem_cons_self
  intro heq
  rw [Option.some.inj heq] at hc
  cases hc

/-- What is left of a number behind its sign and its first digits. -/
theorem readNumber_minus_append (hds : IsWhole ds) (hs : NoDigit s) : readNumber (minus negative ++ (ds ++ s)) =
    numberOf negative ds (partOf s) (afterPart s) (readExponent (afterPart s)) := by
  have hne : ¬ds.isEmpty = true := by simpa using hds.isDigits.1
  rw [readNumber_eq, splitMinus_append (hds.isDigits.head?_append s)]
  dsimp only
  rw [wholeOf_append hds hs, if_neg hne, List.drop_left]

/-- A number is read whole, when nothing follows that it could go on with. -/
theorem readNumber_append (h : IsNumber w v) (hrest : Ends rest) :
    readNumber (w ++ rest) = .ok (v, rest) := by
  have hdigit : NoDigit rest := hrest.noDigit
  have hpoint : rest.head? ≠ some '.' := hrest.head?_ne (by decide) (by decide)
  have hnone : readExponent rest = none :=
    readExponent_eq_none ⟨hrest.head?_ne (by decide) (by decide), hrest.head?_ne (by decide) (by decide)⟩
  cases h with
  | @whole ds negative hds hlength =>
    obtain ⟨hpart, hafter⟩ := partOf_append .none hdigit fun _ => hpoint
    rw [List.nil_append] at hpart hafter
    rw [List.append_assoc, readNumber_minus_append hds hdigit, hpart, hafter, hnone]
    simp [numberOf, Nat.not_lt.2 hlength]
  | @decimal ds part fraction exponent e negative hds hfraction hexponent hsome =>
    have hdigit' : NoDigit (exponent ++ rest) := by
      cases hexponent with
      | none => exact hdigit
      | some he _ _ =>
        intro c hc
        rw [← Option.some.inj hc]
        rcases he with rfl | rfl <;> rfl
    have hpoint' : (exponent ++ rest).head? ≠ some '.' := by
      cases hexponent with
      | none => exact hpoint
      | some he _ _ =>
        intro heq
        rw [Option.some.inj heq] at he
        exact absurd he (by decide)
    have hfirst : NoDigit (fraction ++ (exponent ++ rest)) := by
      cases hfraction with
      | none => exact hdigit'
      | some _ =>
        intro c hc
        rw [← Option.some.inj hc]
        rfl
    obtain ⟨hpart, hafter⟩ := partOf_append hfraction hdigit' fun _ => hpoint'
    rw [List.append_assoc, List.append_assoc, List.append_assoc, readNumber_minus_append hds hfirst, hpart, hafter]
    -- without an exponent there is a fraction, or the number would be whole
    by_cases hnil : exponent = []
    · subst hnil
      cases hexponent
      have hpart : ¬part.isEmpty = true := by
        cases hfraction with
        | none => exact absurd rfl (hsome.resolve_right (fun h => h rfl))
        | some hds => simpa using hds.1
      rw [List.nil_append, hnone, numberOf, if_neg hpart, Int.zero_sub]
    · rw [readExponent_append hexponent hnil hdigit, numberOf]

end

end LineTagger.Json
