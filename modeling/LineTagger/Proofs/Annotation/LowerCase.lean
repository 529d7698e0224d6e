import LineTagger.Proofs.Charset.Spelling
import LineTagger.Text.Case
import LineTagger.Token
import Mathlib.Data.List.Chain

/-!
Lower case and the kinds of characters. Each character but the dotted capital I has one small letter, of the
same kind and in lower case already; only that of the capital sigma depends on the neighbours.
-/

namespace LineTagger

/-- Code points as the bits of a number, which many of them are compared with at once. -/
def bitsOf (ns : List Nat) : Nat := ns.foldr (fun n bits => 1 <<< n ||| bits) 0

theorem testBit_bitsOf {ns : List Nat} {n : Nat} : (bitsOf ns).testBit n = true ↔ n ∈ ns := by
  induction ns with
  | nil => simp [bitsOf]
  | cons m ns ih =>
    rw [bitsOf, List.foldr_cons, Nat.testBit_or, Nat.one_shiftLeft, Nat.testBit_two_pow, Bool.or_eq_true,
      decide_eq_true_eq, List.mem_cons, eq_comm, ← bitsOf, ih]

namespace Ranges

/-- The code points of ranges as bits. -/
def bits (rs : Ranges) : Nat := rs.foldr (fun r bits => (1 <<< (r.2 + 1 - r.1) - 1) <<< r.1 ||| bits) 0

/-- Whether ranges stand in the order in which they are searched. -/
def Ascending (rs : Ranges) : Prop := (∀ r ∈ rs, r.1 ≤ r.2) ∧ rs.IsChain fun r q => r.1 ≤ q.1

instance (rs : Ranges) : Decidable rs.Ascending := inferInstanceAs (Decidable (_ ∧ _))

theorem has_of_lt {rs : Ranges} {n : Nat} (h : ∀ r ∈ rs, n < r.1) : rs.has n = false := by
  cases rs with
  | nil => rfl
  | cons r rest => rw [has, if_pos (h r List.mem_cons_self)]

theorem testBit_bits {rs : Ranges} (h : rs.Ascending) (n : Nat) : rs.bits.testBit n = rs.has n := by
  obtain ⟨hends, hchain⟩ := h
  rw [List.isChain_iff_pairwise] at hchain
  induction rs with
  | nil => simp [bits, has]
  | cons r rest ih =>
    obtain ⟨hr, hends⟩ := List.forall_mem_cons.1 hends
    obtain ⟨hfirst, hchain⟩ := List.pairwise_cons.1 hchain
    have hbits : bits (r :: rest) = (1 <<< (r.2 + 1 - r.1) - 1) <<< r.1 ||| bits rest := rfl
    rw [hbits, Nat.testBit_or, Nat.testBit_shiftLeft, Nat.one_shiftLeft, Nat.testBit_two_pow_sub_one,
      ih hends hchain, has]
    by_cases hlo : n < r.1
    · have hbelow : ∀ q ∈ rest, n < q.1 := fun q hq => Nat.lt_of_lt_of_le hlo (hfirst q hq)
      rw [if_pos hlo, has_of_lt hbelow, decide_eq_false (Nat.not_le_of_lt hlo), Bool.false_and, Bool.or_false]
    · have hlength : n - r.1 < r.2 + 1 - r.1 ↔ n ≤ r.2 := by omega
      rw [if_neg hlo, decide_eq_true (Nat.le_of_not_lt hlo), Bool.true_and, decide_eq_decide.2 hlength]

end Ranges

/-- A run of capitals, as in the table. -/
abbrev CaseRun := Nat × Nat × Nat × Int

namespace CaseRun

/-- Whether a code point is a capital of a run. -/
def Has (r : CaseRun) (n : Nat) : Prop := r.1 ≤ n ∧ n ≤ r.2.1 ∧ (n - r.1) % r.2.2.1 = 0

/-- How far the capitals of a run are from its first. -/
def places (r : CaseRun) : List Nat := List.range' 0 ((r.2.1 - r.1) / r.2.2.1 + 1) r.2.2.1

/-- The capitals of a run. -/
def capitals (r : CaseRun) : List Nat := r.places.map (r.1 + ·)

/-- Where a run moves a capital. -/
def small (r : CaseRun) (n : Nat) : Nat := (n + r.2.2.2).toNat

/-- A set of code points from one of them on, as far as a run goes. -/
def window (r : CaseRun) (bits n : Nat) : Nat := bits >>> n &&& bitsOf r.places

variable {r : CaseRun} {n bits : Nat}

theorem Has.mem_places (h : r.Has n) : n - r.1 ∈ r.places := by
  obtain ⟨hlo, hhi, hstep⟩ := h
  have hmul := Nat.mul_div_cancel' (Nat.dvd_of_mod_eq_zero hstep)
  have hle : (n - r.1) / r.2.2.1 ≤ (r.2.1 - r.1) / r.2.2.1 := Nat.div_le_div_right (by omega)
  exact List.mem_range'.2 ⟨(n - r.1) / r.2.2.1, Nat.lt_succ_of_le hle, by rw [Nat.zero_add, hmul]⟩

theorem Has.mem_capitals (h : r.Has n) : n ∈ r.capitals :=
  List.mem_map.2 ⟨n - r.1, h.mem_places, Nat.add_sub_cancel' h.1⟩

theorem Has.small_le (h : r.Has n) : r.small r.1 ≤ r.small n ∧ r.small n ≤ r.small r.2.1 := by
  obtain ⟨hlo, hhi, -⟩ := h
  unfold small
  omega

/-- A window shows the code point that a run has where it shows the first. -/
theorem Has.testBit_window (h : r.Has n) (m : Nat) :
    (r.window bits m).testBit (n - r.1) = bits.testBit (m + (n - r.1)) := by
  rw [window, Nat.testBit_and, testBit_bitsOf.2 h.mem_places, Bool.and_true, Nat.testBit_shiftRight]

end CaseRun

/-- Hyphen and apostrophes. -/
def connectorRanges : Ranges := [(39, 39), (45, 45), (8217, 8217)]

/-- The kinds of characters that tokens are made of. -/
def kindRanges : List Ranges := [wordRanges, blankRanges, connectorRanges]

/-- All capitals of the table. -/
def capitalBits : Nat := bitsOf (lowerRuns.flatMap CaseRun.capitals)

/-- The table of small letters is tidy: they are of the kinds that their capitals are of, and none is a capital
of the table or the dotted capital. -/
theorem tidy_lowerRuns : (∀ rs ∈ kindRanges, rs.Ascending) ∧ ∀ r ∈ lowerRuns,
    (∀ rs ∈ kindRanges, CaseRun.window r rs.bits (CaseRun.small r r.1) = CaseRun.window r rs.bits r.1) ∧
    CaseRun.window r capitalBits (CaseRun.small r r.1) = 0 ∧
    0 ≤ r.1 + r.2.2.2 ∧
    (CaseRun.small r r.2.1 < 0xD800 ∨ 0xDFFF < CaseRun.small r r.1 ∧ CaseRun.small r r.2.1 < 0x110000) ∧
    (CaseRun.small r r.2.1 < 304 ∨ 304 < CaseRun.small r r.1) := by
  decide +kernel

section

variable {runs : List CaseRun} {r : CaseRun} {n : Nat}

/-- A code point that moves does so by a run that has it. -/
theorem exists_of_lowerCode_ne (h : lowerCode runs n ≠ n) :
    ∃ r ∈ runs, r.Has n ∧ lowerCode runs n = r.small n := by
  induction runs with
  | nil => exact absurd rfl h
  | cons r rest ih =>
    obtain ⟨lo, hi, step, shift⟩ := r
    by_cases hlo : n < lo
    · rw [lowerCode, if_pos hlo] at h
      exact absurd rfl h
    by_cases hhas : n ≤ hi ∧ (n - lo) % step = 0
    · refine ⟨_, List.mem_cons_self, ⟨Nat.le_of_not_lt hlo, hhas⟩, ?_⟩
      rw [lowerCode, if_neg hlo, if_pos hhas]
      rfl
    · rw [lowerCode, if_neg hlo, if_neg hhas] at h ⊢
      obtain ⟨r, hr, hn⟩ := ih h
      exact ⟨r, List.mem_cons_of_mem _ hr, hn⟩

theorem small_eq (hr : r ∈ lowerRuns) (hn : r.Has n) : r.small n = r.small r.1 + (n - r.1) := by
  obtain ⟨-, -, hpositive, -⟩ := tidy_lowerRuns.2 r hr
  obtain ⟨hlo, -⟩ := hn
  unfold CaseRun.small
  omega

theorem has_small (hr : r ∈ lowerRuns) (hn : r.Has n) {rs : Ranges} (hrs : rs ∈ kindRanges) :
    rs.has (r.small n) = rs.has n := by
  obtain ⟨hascending, hruns⟩ := tidy_lowerRuns
  have hwindow := congrArg (Nat.testBit · (n - r.1)) ((hruns r hr).1 rs hrs)
  simp only [hn.testBit_window] at hwindow
  rwa [← small_eq hr hn, Nat.add_sub_cancel' hn.1, Ranges.testBit_bits (hascending rs hrs),
    Ranges.testBit_bits (hascending rs hrs)] at hwindow

/-- What is a small letter in the table is no capital in it. -/
theorem lowerCode_small (hr : r ∈ lowerRuns) (hn : r.Has n) :
    lowerCode lowerRuns (r.small n) = r.small n := by
  refine Decidable.byContradiction fun hmoves => ?_
  obtain ⟨q, hq, hqn, -⟩ := exists_of_lowerCode_ne hmoves
  have hcapital : r.small n ∈ lowerRuns.flatMap CaseRun.capitals :=
    List.mem_flatMap.2 ⟨q, hq, hqn.mem_capitals⟩
  obtain ⟨-, hnone, -⟩ := tidy_lowerRuns.2 r hr
  have hwindow := congrArg (Nat.testBit · (n - r.1)) hnone
  simp only [hn.testBit_window, Nat.zero_testBit] at hwindow
  rw [← small_eq hr hn, capitalBits, testBit_bitsOf.2 hcapital] at hwindow
  cases hwindow

end

/-- What tokens are told apart by in a character. -/
def kind (c : Char) : Bool × Bool × Bool := (isWord c, isBlank c, Token.isConnector c)

theorem kind_eq_iff {c d : Char} : kind d = kind c ↔
    isWord d = isWord c ∧ isBlank d = isBlank c ∧ Token.isConnector d = Token.isConnector c := by
  rw [kind, kind, Prod.mk.injEq, Prod.mk.injEq]

/-- A character that is its own small letter, whatever its neighbours. -/
def IsLow (c : Char) : Prop := ∀ before after, lowerChar before c after = [c]

/-- What the letters that do not map one to one become is in lower case, and the sigmas are of one kind. -/
theorem special_letters :
    (∀ c ∈ ['ς', 'σ', 'i', '\u0307'], lowerCode lowerRuns c.toNat = c.toNat) ∧
    lowerCode lowerRuns 'Σ'.toNat ≠ 'Σ'.toNat ∧ kind 'ς' = kind 'Σ' ∧ kind 'σ' = kind 'Σ' := by
  decide

/-- Whether a capital sigma between two texts ends a word; the text before it is given nearest first. -/
def sigmaIsFinal (before after : List Char) : Bool := nextIsCased before && !nextIsCased after

section

variable {before after : List Char} {c d : Char}

theorem lowerChar_sigma (before after : List Char) :
    lowerChar before 'Σ' after = [if sigmaIsFinal before after then 'ς' else 'σ'] := rfl

theorem lowerChar_of_ne (hsigma : c ≠ 'Σ') (hdot : c ≠ 'İ') (before after : List Char) :
    lowerChar before c after = [Char.ofNat (lowerCode lowerRuns c.toNat)] := by
  rw [lowerChar, if_neg hsigma, if_neg hdot]

theorem isLow_of_lowerCode (hsigma : c ≠ 'Σ') (hdot : c ≠ 'İ') (h : lowerCode lowerRuns c.toNat = c.toNat) :
    IsLow c := by
  intro before after
  rw [lowerChar_of_ne hsigma hdot, h, Char.ofNat_toNat]

/-- The small letter of a character that moves. -/
theorem exists_run (h : lowerCode lowerRuns c.toNat ≠ c.toNat) : ∃ r ∈ lowerRuns, CaseRun.Has r c.toNat ∧
    (Char.ofNat (lowerCode lowerRuns c.toNat)).toNat = CaseRun.small r c.toNat := by
  obtain ⟨r, hr, hn, hsmall⟩ := exists_of_lowerCode_ne h
  obtain ⟨-, -, -, hvalid, -⟩ := tidy_lowerRuns.2 r hr
  obtain ⟨hlo, hhi⟩ := hn.small_le
  refine ⟨r, hr, hn, ?_⟩
  rw [hsmall, Charset.toNat_charOfNat (by omega)]

theorem isLow_ofNat (hsigma : c ≠ 'Σ') (hdot : c ≠ 'İ') :
    IsLow (Char.ofNat (lowerCode lowerRuns c.toNat)) := by
  by_cases hmoves : lowerCode lowerRuns c.toNat = c.toNat
  · rw [hmoves, Char.ofNat_toNat]
    exact isLow_of_lowerCode hsigma hdot hmoves
  · obtain ⟨r, hr, hn, hsmall⟩ := exists_run hmoves
    obtain ⟨-, -, -, -, hnoDot⟩ := tidy_lowerRuns.2 r hr
    obtain ⟨hlo, hhi⟩ := hn.small_le
    have hfixed := lowerCode_small hr hn
    rw [← hsmall] at hfixed
    refine isLow_of_lowerCode (fun hc => ?_) (fun hc => ?_) hfixed
    · rw [hc] at hfixed
      exact special_letters.2.1 hfixed
    · have hcode : 'İ'.toNat = 304 := rfl
      rw [hc] at hsmall
      omega

theorem isConnector_eq (c : Char) : Token.isConnector c = connectorRanges.has c.toNat := by
  have hcode (d : Char) : c = d ↔ c.toNat = d.toNat := Char.toNat_inj.symm
  rw [Bool.eq_iff_iff]
  simp only [Token.isConnector, connectorRanges, Ranges.has, hcode, Char.reduceToNat]
  grind

theorem kind_ofNat (c : Char) : kind (Char.ofNat (lowerCode lowerRuns c.toNat)) = kind c := by
  by_cases hmoves : lowerCode lowerRuns c.toNat = c.toNat
  · rw [hmoves, Char.ofNat_toNat]
  · obtain ⟨r, hr, hn, hsmall⟩ := exists_run hmoves
    have hkinds : ∀ rs ∈ kindRanges, rs.has (CaseRun.small r c.toNat) = rs.has c.toNat :=
      fun rs hrs => has_small hr hn hrs
    simp only [kindRanges, List.forall_mem_cons] at hkinds
    obtain ⟨hword, hblank, hconnector, -⟩ := hkinds
    simp only [kind, isWord, isBlank, isConnector_eq, hsmall, hword, hblank, hconnector]

/-- Whatever lower case yields is in lower case. -/
theorem isLow_of_mem_lowerChar (hd : d ∈ lowerChar before c after) : IsLow d := by
  obtain ⟨hstay, -⟩ := special_letters
  have hlow : ∀ c ∈ ['ς', 'σ', 'i', '\u0307'], IsLow c := fun c hc => by
    have hne : ∀ c ∈ ['ς', 'σ', 'i', '\u0307'], c ≠ 'Σ' ∧ c ≠ 'İ' := by decide
    exact isLow_of_lowerCode (hne c hc).1 (hne c hc).2 (hstay c hc)
  simp only [List.forall_mem_cons] at hlow
  obtain ⟨hfinal, hsigma, hi, hdot, -⟩ := hlow
  by_cases hc : c = 'Σ'
  · subst hc
    rw [lowerChar_sigma, List.mem_singleton] at hd
    subst hd
    split
    · exact hfinal
    · exact hsigma
  by_cases hI : c = 'İ'
  · subst hI
    obtain rfl | hd := List.mem_cons.1 hd
    · exact hi
    · obtain rfl := List.mem_singleton.1 hd
      exact hdot
  rw [lowerChar_of_ne hc hI, List.mem_singleton] at hd
  subst hd
  exact isLow_ofNat hc hI

theorem exists_lowerChar (hc : c ≠ 'İ') (before after : List Char) :
    ∃ d, lowerChar before c after = [d] ∧ kind d = kind c := by
  by_cases hsigma : c = 'Σ'
  · subst hsigma
    obtain ⟨-, -, hfinal, hinner⟩ := special_letters
    refine ⟨_, lowerChar_sigma before after, ?_⟩
    split
    · exact hfinal
    · exact hinner
  · exact ⟨_, lowerChar_of_ne hsigma hc before after, kind_ofNat c⟩

theorem lowerChar_eq_iff {before' after' : List Char} :
    lowerChar before c after = lowerChar before' c after' ↔
      (c = 'Σ' → sigmaIsFinal before after = sigmaIsFinal before' after') := by
  by_cases hc : c = 'Σ'
  · subst hc
    rw [lowerChar_sigma, lowerChar_sigma]
    cases sigmaIsFinal before after <;> cases sigmaIsFinal before' after' <;> decide
  · simp [lowerChar, hc]

end

/-- Lower case of a part of a text; `before` precedes it, nearest first, and `after` follows it. -/
def lowerWithin (before : List Char) : List Char → List Char → List Char
  | [], _ => []
  | c :: s, after => lowerChar before c (s ++ after) ++ lowerWithin (c :: before) s after

@[simp] theorem lowerWithin_nil (before after : List Char) : lowerWithin before [] after = [] := rfl

@[simp] theorem lowerWithin_cons (before : List Char) (c : Char) (s after : List Char) :
    lowerWithin before (c :: s) after = lowerChar before c (s ++ after) ++ lowerWithin (c :: before) s after := rfl

theorem lowerAfter_eq (before s : List Char) : lowerAfter before s = lowerWithin before s [] := by
  induction s generalizing before with
  | nil => rfl
  | cons c s ih => rw [lowerAfter, lowerWithin_cons, ih, List.append_nil]

theorem lower_eq (s : List Char) : lower s = lowerWithin [] s [] := lowerAfter_eq [] s

section

variable {before after s t : List Char} {c d : Char}

theorem lowerWithin_append (before s t after : List Char) : lowerWithin before (s ++ t) after =
    lowerWithin before s (t ++ after) ++ lowerWithin (s.reverse ++ before) t after := by
  induction s generalizing before with
  | nil => rfl
  | cons c s ih =>
    rw [List.cons_append, lowerWithin_cons, lowerWithin_cons, ih]
    simp

theorem lowerWithin_reverse_append (before w s : List Char) : lowerWithin before.reverse (w ++ s) [] =
    lowerWithin before.reverse w s ++ lowerWithin (before ++ w).reverse s [] := by
  rw [lowerWithin_append, List.append_nil, List.reverse_append]

theorem lowerWithin_singleton (hc : c ≠ 'İ') (before s : List Char) :
    ∃ d, lowerWithin before [c] s = [d] ∧ kind d = kind c := by
  obtain ⟨d, hd, hkind⟩ := exists_lowerChar hc before s
  refine ⟨d, ?_, hkind⟩
  rw [lowerWithin_cons, lowerWithin_nil, List.nil_append, hd, List.append_nil]

theorem isLow_of_mem_lowerWithin (hd : d ∈ lowerWithin before s after) : IsLow d := by
  induction s generalizing before with
  | nil => cases hd
  | cons c s ih =>
    obtain hd | hd := List.mem_append.1 hd
    · exact isLow_of_mem_lowerChar hd
    · exact ih hd

theorem lowerWithin_of_isLow (h : ∀ c ∈ s, IsLow c) (before after : List Char) :
    lowerWithin before s after = s := by
  induction s generalizing before with
  | nil => rfl
  | cons c s ih =>
    obtain ⟨hc, hs⟩ := List.forall_mem_cons.1 h
    rw [lowerWithin_cons, hc, ih hs, List.singleton_append]

/-- Characters stay as many as they are, and of the same kinds. -/
theorem map_kind_lowerWithin (h : 'İ' ∉ s) (before after : List Char) :
    (lowerWithin before s after).map kind = s.map kind := by
  induction s generalizing before with
  | nil => rfl
  | cons c s ih =>
    obtain ⟨hc, hs⟩ := List.ne_and_not_mem_of_not_mem_cons h
    obtain ⟨d, hd, hkind⟩ := exists_lowerChar hc.symm before (s ++ after)
    rw [lowerWithin_cons, hd, List.singleton_append, List.map_cons, List.map_cons, hkind, ih hs]

/-- The dotted capital becomes a letter and a mark that is no letter. -/
theorem mem_lowerWithin_of_dot (h : 'İ' ∈ s) (before after : List Char) :
    'i' ∈ lowerWithin before s after ∧ '\u0307' ∈ lowerWithin before s after := by
  induction s generalizing before with
  | nil => cases h
  | cons c s ih =>
    rw [lowerWithin_cons, List.mem_append, List.mem_append]
    obtain rfl | h := List.mem_cons.1 h
    · exact ⟨.inl (List.mem_cons_self), .inl (List.mem_cons_of_mem _ List.mem_cons_self)⟩
    · obtain ⟨hi, hmark⟩ := ih h (c :: before)
      exact ⟨.inr hi, .inr hmark⟩

/-- What stands around a part of a text counts only as to which of its sigmas end a word. -/
theorem lowerWithin_eq_iff {before' after' : List Char} :
    lowerWithin before s after = lowerWithin before' s after' ↔ ∀ i < s.length, s[i]? = some 'Σ' →
      sigmaIsFinal ((s.take i).reverse ++ before) (s.drop (i + 1) ++ after) =
        sigmaIsFinal ((s.take i).reverse ++ before') (s.drop (i + 1) ++ after') := by
  induction s generalizing before before' with
  | nil => simp
  | cons c s ih =>
    have hlength : (lowerChar before c (s ++ after)).length = (lowerChar before' c (s ++ after')).length := by
      unfold lowerChar
      split
      · rfl
      · split <;> rfl
    rw [lowerWithin_cons, lowerWithin_cons, List.append_eq_append_iff_of_size_eq_left hlength, lowerChar_eq_iff,
      ih, List.length_cons, Nat.forall_lt_succ_left]
    simp

end

end LineTagger
