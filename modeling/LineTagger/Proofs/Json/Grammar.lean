import LineTagger.Folder
import LineTagger.Json
import Mathlib.Data.List.Induction

/-!
JSON as a grammar. A text is a row of lexemes with white space around them: signs, strings, and numbers or words;
and a row of lexemes denotes a value. Of members with one name the last gives the value and the first the place.
-/

namespace LineTagger.Json

/-- Whether what is written in a string goes on with the escape of a low surrogate. -/
def StartsLow (w : List Char) : Prop :=
  ∃ ds m v, w = '\\' :: 'u' :: (ds ++ v) ∧ fourHex? ds = some (m, []) ∧ isLowSurrogate m = true

/-- The character of a high and a low surrogate. -/
def charOfPair (n m : Nat) : Char := Char.ofNat (0x10000 + (n - 0xD800) * 0x400 + (m - 0xDC00))

/-- What is written between the quotes of a string, and the text it stands for. -/
inductive Spells : List Char → List Char → Prop where
  | nil : Spells [] []
  | char {c : Char} {w t : List Char} (hquote : c ≠ '"') (hescape : c ≠ '\\') (hcontrol : 0x20 ≤ c.toNat)
      (h : Spells w t) : Spells (c :: w) (c :: t)
  | letter {e c : Char} {w t : List Char} (he : letterEscape? e = some c) (h : Spells w t) :
      Spells ('\\' :: e :: w) (c :: t)
  | unicode {ds w t : List Char} {n : Nat} (hds : fourHex? ds = some (n, []))
      (hlone : isHighSurrogate n = true → ¬StartsLow w) (h : Spells w t) :
      Spells ('\\' :: 'u' :: (ds ++ w)) (charOf n :: t)
  | pair {ds es w t : List Char} {n m : Nat} (hds : fourHex? ds = some (n, [])) (hes : fourHex? es = some (m, []))
      (hhigh : isHighSurrogate n = true) (hlow : isLowSurrogate m = true) (h : Spells w t) :
      Spells ('\\' :: 'u' :: (ds ++ '\\' :: 'u' :: (es ++ w))) (charOfPair n m :: t)

def IsDigits (ds : List Char) : Prop := ds ≠ [] ∧ ∀ c ∈ ds, c.isDigit = true

/-- The digits of a whole number: zero is written as one, and no other number starts with it. -/
def IsWhole (ds : List Char) : Prop := ds = ['0'] ∨ IsDigits ds ∧ ds.head? ≠ some '0'

def minus (negative : Bool) : List Char := if negative then ['-'] else []

def signed (negative : Bool) (n : Int) : Int := if negative then -n else n

/-- A fraction, if there is one, with its digits. -/
inductive IsFraction : List Char → List Char → Prop where
  | none : IsFraction [] []
  | some {ds : List Char} (hds : IsDigits ds) : IsFraction ('.' :: ds) ds

/-- How the sign of an exponent is written, and whether it is a minus. -/
def exponentSigns : List (List Char × Bool) := [([], false), (['+'], false), (['-'], true)]

/-- An exponent, if there is one, with its value. -/
inductive IsExponent : List Char → Int → Prop where
  | none : IsExponent [] 0
  | some {e : Char} {sign ds : List Char} {negative : Bool} (he : e = 'e' ∨ e = 'E')
      (hsign : (sign, negative) ∈ exponentSigns) (hds : IsDigits ds) :
      IsExponent (e :: (sign ++ ds)) (signed negative (Numeral.value ds))

/-- Numbers and their values. A whole number is not longer than the limit. -/
inductive IsNumber : List Char → Value → Prop where
  | whole {ds : List Char} (negative : Bool) (hds : IsWhole ds) (hlength : ds.length ≤ Numeral.digitLimit) :
      IsNumber (minus negative ++ ds) (.int (signed negative (Numeral.value ds)))
  | decimal {ds part fraction exponent : List Char} {e : Int} (negative : Bool) (hds : IsWhole ds)
      (hfraction : IsFraction fraction part) (hexponent : IsExponent exponent e)
      (hsome : fraction ≠ [] ∨ exponent ≠ []) :
      IsNumber (minus negative ++ (ds ++ (fraction ++ exponent)))
        (.double (Double.ofDecimal negative (Numeral.value (ds ++ part)) (e - part.length)))

def IsScalar (w : List Char) (v : Value) : Prop := (w, v) ∈ words ∨ IsNumber w v

inductive Lexeme where
  | sign (c : Char)
  | text (t : List Char)
  | scalar (v : Value)

def signs : List Char := ['\x7b', '\x7d', '[', ']', ':', ',']

inductive Lexeme.Writes : Lexeme → List Char → Prop where
  | sign {c : Char} (hc : c ∈ signs) : (Lexeme.sign c).Writes [c]
  | text {w t : List Char} (hw : Spells w t) : (Lexeme.text t).Writes ('"' :: (w ++ ['"']))
  | scalar {w : List Char} {v : Value} (hw : IsScalar w v) : (Lexeme.scalar v).Writes w

/-- The lexemes of a text. White space is between any of them, or is not. -/
inductive Lexes : List Char → List Lexeme → Prop where
  | nil : Lexes [] []
  | blank {c : Char} {s : List Char} {ls : List Lexeme} (hc : isBlank c = true) (h : Lexes s ls) :
      Lexes (c :: s) ls
  | cons {l : Lexeme} {w s : List Char} {ls : List Lexeme} (hw : l.Writes w) (h : Lexes s ls) :
      Lexes (w ++ s) (l :: ls)

/-- Members by their names, each name once. -/
def merged (ms : List (String × Value)) : List (String × Value) :=
  (ms.map Prod.fst).eraseDups.map fun k => (k, (ms.reverse.lookup k).getD .null)

/-- What lexemes denote: a value, or the elements or the members in the brackets of one. -/
inductive Part where
  | value (v : Value)
  | elements (vs : List Value)
  | members (ms : List (String × Value))

/-- Rows of lexemes and what they denote, with at most some number of arrays and objects open at once. -/
inductive Denotes : Nat → List Lexeme → Part → Prop where
  | text {depth : Nat} {t : List Char} : Denotes depth [.text t] (.value (.text (String.ofList t)))
  | scalar {depth : Nat} {v : Value} : Denotes depth [.scalar v] (.value v)
  | emptyList {depth : Nat} : Denotes (depth + 1) [.sign '[', .sign ']'] (.value (.list []))
  | list {depth : Nat} {ls : List Lexeme} {vs : List Value} (h : Denotes depth ls (.elements vs)) :
      Denotes (depth + 1) (.sign '[' :: (ls ++ [.sign ']'])) (.value (.list vs))
  | emptyMap {depth : Nat} : Denotes (depth + 1) [.sign '\x7b', .sign '\x7d'] (.value (.map []))
  | map {depth : Nat} {ls : List Lexeme} {ms : List (String × Value)} (h : Denotes depth ls (.members ms)) :
      Denotes (depth + 1) (.sign '\x7b' :: (ls ++ [.sign '\x7d'])) (.value (.map (merged ms)))
  | element {depth : Nat} {ls : List Lexeme} {v : Value} (h : Denotes depth ls (.value v)) :
      Denotes depth ls (.elements [v])
  | elements {depth : Nat} {ls ks : List Lexeme} {v : Value} {vs : List Value} (h : Denotes depth ls (.value v))
      (hs : Denotes depth ks (.elements vs)) : Denotes depth (ls ++ .sign ',' :: ks) (.elements (v :: vs))
  | member {depth : Nat} {t : List Char} {ls : List Lexeme} {v : Value} (h : Denotes depth ls (.value v)) :
      Denotes depth (.text t :: .sign ':' :: ls) (.members [(String.ofList t, v)])
  | members {depth : Nat} {t : List Char} {ls ks : List Lexeme} {v : Value} {ms : List (String × Value)}
      (h : Denotes depth ls (.value v)) (hs : Denotes depth ks (.members ms)) :
      Denotes depth (.text t :: .sign ':' :: (ls ++ .sign ',' :: ks)) (.members ((String.ofList t, v) :: ms))

/-- Texts and their values. -/
def IsText (depth : Nat) (s : List Char) (v : Value) : Prop := ∃ ls, Lexes s ls ∧ Denotes depth ls (.value v)

/-- Text that no number goes on with. -/
def Ends (s : List Char) : Prop := ∀ c ∈ s.head?, isBlank c = true ∨ c ∈ signs

section

variable {c : Char} {s w x t ds : List Char} {l : Lexeme} {ls ks : List Lexeme} {v : Value} {n : Nat}

theorem IsWhole.isDigits (h : IsWhole ds) : IsDigits ds := by
  rcases h with rfl | h
  · exact ⟨by decide, by decide⟩
  · exact h.1

/-- Four hexadecimal digits, wherever they stand. -/
theorem fourHex?_eq_some_iff : fourHex? s = some (n, x) ↔ ∃ ds, s = ds ++ x ∧ fourHex? ds = some (n, []) := by
  constructor
  · intro h
    unfold fourHex? at h
    split at h
    · next a b c d rest =>
      refine ⟨[a, b, c, d], ?_⟩
      simp only [Option.bind_eq_bind, Option.bind_eq_some_iff] at h
      obtain ⟨_, ha, _, hb, _, hc, _, hd, heq⟩ := h
      cases heq
      exact ⟨rfl, by simp [fourHex?, ha, hb, hc, hd]⟩
    · cases h
  · rintro ⟨ds, rfl, h⟩
    unfold fourHex? at h
    split at h
    · simp only [Option.bind_eq_bind, Option.bind_eq_some_iff] at h
      obtain ⟨_, ha, _, hb, _, hc, _, hd, heq⟩ := h
      cases heq
      simp [fourHex?, ha, hb, hc, hd]
    · cases h

theorem isDigit_le_toNat (h : c.isDigit = true) : 0x20 ≤ c.toNat := by
  simp only [Char.isDigit_iff_toNat, Char.reduceToNat] at h
  omega

theorem hexValue?_le_toNat (h : hexValue? c = some n) : 0x20 ≤ c.toNat := by
  unfold hexValue? at h
  split at h
  · next hdigit => exact isDigit_le_toNat hdigit
  · split at h
    · next hlow =>
      simp only [Char.le_def, UInt32.le_iff_toNat_le, Char.reduceVal, UInt32.reduceToNat] at hlow
      exact Nat.le_trans (by decide) hlow.1
    · split at h
      · next hhigh =>
        simp only [Char.le_def, UInt32.le_iff_toNat_le, Char.reduceVal, UInt32.reduceToNat] at hhigh
        exact Nat.le_trans (by decide) hhigh.1
      · cases h

theorem fourHex?_le_toNat (h : fourHex? ds = some (n, [])) : ∀ c ∈ ds, 0x20 ≤ c.toNat := by
  unfold fourHex? at h
  split at h
  · simp only [Option.bind_eq_bind, Option.bind_eq_some_iff] at h
    obtain ⟨_, ha, _, hb, _, hc, _, hd, heq⟩ := h
    cases heq
    simp [hexValue?_le_toNat ha, hexValue?_le_toNat hb, hexValue?_le_toNat hc, hexValue?_le_toNat hd]
  · cases h

theorem letterEscape?_le_toNat {e : Char} (h : letterEscape? e = some c) : 0x20 ≤ e.toNat := by
  unfold letterEscape? at h
  split at h
  case h_9 => cases h
  all_goals decide

/-- No control character is written in a string. -/
theorem Spells.le_toNat (h : Spells w t) : ∀ c ∈ w, 0x20 ≤ c.toNat := by
  have hsigns : ∀ c ∈ ['\\', 'u'], 0x20 ≤ c.toNat := by decide
  simp only [List.forall_mem_cons] at hsigns
  obtain ⟨hescape, hletter, -⟩ := hsigns
  induction h with
  | nil => simp
  | char _ _ hcontrol _ ih => exact List.forall_mem_cons.2 ⟨hcontrol, ih⟩
  | letter he _ ih =>
    exact List.forall_mem_cons.2 ⟨hescape, List.forall_mem_cons.2 ⟨letterEscape?_le_toNat he, ih⟩⟩
  | unicode hds _ _ ih =>
    have hdigits := fourHex?_le_toNat hds
    simp only [List.forall_mem_cons, List.forall_mem_append]
    exact ⟨hescape, hletter, hdigits, ih⟩
  | pair hds hes _ _ _ ih =>
    have hdigits := fourHex?_le_toNat hds
    have hdigits' := fourHex?_le_toNat hes
    simp only [List.forall_mem_cons, List.forall_mem_append]
    exact ⟨hescape, hletter, hdigits, hescape, hletter, hdigits', ih⟩

theorem IsFraction.le_toNat (h : IsFraction w ds) : ∀ c ∈ w, 0x20 ≤ c.toNat := by
  cases h with
  | none => simp
  | some hds => exact List.forall_mem_cons.2 ⟨by decide, fun c hc => isDigit_le_toNat (hds.2 c hc)⟩

theorem IsExponent.le_toNat {e : Int} (h : IsExponent w e) : ∀ c ∈ w, 0x20 ≤ c.toNat := by
  have hsigns : ∀ x ∈ exponentSigns, ∀ c ∈ x.1, 0x20 ≤ c.toNat := by decide
  cases h with
  | none => simp
  | some he hsign hds =>
    simp only [List.forall_mem_cons, List.forall_mem_append]
    refine ⟨?_, hsigns _ hsign, fun c hc => isDigit_le_toNat (hds.2 c hc)⟩
    rcases he with rfl | rfl <;> decide

theorem minus_le_toNat (negative : Bool) : ∀ c ∈ minus negative, 0x20 ≤ c.toNat := by
  cases negative <;> decide

theorem IsScalar.le_toNat (h : IsScalar w v) : ∀ c ∈ w, 0x20 ≤ c.toNat := by
  have hwords : ∀ x ∈ words, ∀ c ∈ x.1, 0x20 ≤ c.toNat := by decide
  rcases h with h | h
  · exact hwords _ h
  · cases h with
    | whole negative hds _ =>
      exact List.forall_mem_append.2 ⟨minus_le_toNat negative, fun c hc => isDigit_le_toNat (hds.isDigits.2 c hc)⟩
    | decimal negative hds hfraction hexponent _ =>
      simp only [List.forall_mem_append]
      exact ⟨minus_le_toNat negative, fun c hc => isDigit_le_toNat (hds.isDigits.2 c hc), hfraction.le_toNat,
        hexponent.le_toNat⟩

/-- A lexeme is on one line. -/
theorem Lexeme.Writes.le_toNat (h : l.Writes w) : ∀ c ∈ w, 0x20 ≤ c.toNat := by
  have hsigns : ∀ c ∈ signs, 0x20 ≤ c.toNat := by decide
  have hquote : 0x20 ≤ '"'.toNat := by decide
  cases h with
  | sign hc => exact List.forall_mem_singleton.2 (hsigns _ hc)
  | text hw =>
    simp only [List.forall_mem_cons, List.forall_mem_append]
    exact ⟨hquote, hw.le_toNat, hquote, by simp⟩
  | scalar hw => exact hw.le_toNat

/-- A number is a digit and more, or a minus and these. -/
theorem IsNumber.exists_digit (h : IsNumber w v) :
    ∃ negative d u, w = minus negative ++ d :: u ∧ d.isDigit = true := by
  have hfirst {ds : List Char} (hds : IsDigits ds) : ∃ d u, ds = d :: u ∧ d.isDigit = true := by
    obtain ⟨d, u, rfl⟩ := List.exists_cons_of_ne_nil hds.1
    exact ⟨d, u, rfl, hds.2 d List.mem_cons_self⟩
  cases h with
  | whole negative hds _ =>
    obtain ⟨d, u, rfl, hd⟩ := hfirst hds.isDigits
    exact ⟨negative, d, u, rfl, hd⟩
  | decimal negative hds _ _ _ =>
    obtain ⟨d, u, rfl, hd⟩ := hfirst hds.isDigits
    exact ⟨negative, d, _, rfl, hd⟩

/-- The characters with which words and numbers start are no others of JSON. -/
theorem IsScalar.exists_cons (h : IsScalar w v) :
    ∃ c u, w = c :: u ∧ c ≠ '"' ∧ c ∉ signs ∧ isBlank c = false := by
  have hwords : ∀ x ∈ words, ∃ c ∈ x.1.head?, c ≠ '"' ∧ c ∉ signs ∧ isBlank c = false := by decide
  have hothers : ∀ c ∈ '"' :: ' ' :: '\t' :: '\n' :: '\r' :: signs, c.isDigit = false := by decide
  rcases h with h | h
  · obtain ⟨c, hc, hrest⟩ := hwords _ h
    obtain ⟨u, hu⟩ := List.head?_eq_some_iff.1 hc
    exact ⟨c, u, hu, hrest⟩
  · obtain ⟨negative, d, u, rfl, hd⟩ := h.exists_digit
    cases negative with
    | true => exact ⟨'-', d :: u, rfl, by decide⟩
    | false =>
      have hnot : d ∉ '"' :: ' ' :: '\t' :: '\n' :: '\r' :: signs := fun hmem =>
        Bool.eq_false_iff.1 (hothers d hmem) hd
      simp only [List.mem_cons, not_or] at hnot
      obtain ⟨hquote, hspace, htab, hfeed, hreturn, hsigns⟩ := hnot
      exact ⟨d, u, rfl, hquote, by simpa [signs] using hsigns, by simp [isBlank, *]⟩

theorem Lexeme.Writes.exists_cons (h : l.Writes w) : ∃ c u, w = c :: u ∧ isBlank c = false := by
  have hsigns : ∀ c ∈ signs, isBlank c = false := by decide
  cases h with
  | sign hc => exact ⟨_, [], rfl, hsigns _ hc⟩
  | text hw => exact ⟨_, _, rfl, by decide⟩
  | scalar hw =>
    obtain ⟨c, u, heq, -, -, hc⟩ := hw.exists_cons
    exact ⟨c, u, heq, hc⟩

theorem Lexeme.Writes.skipBlanks_append (h : l.Writes w) (s : List Char) : skipBlanks (w ++ s) = w ++ s := by
  obtain ⟨c, u, rfl, hc⟩ := h.exists_cons
  rw [List.cons_append, skipBlanks, List.dropWhile_cons, hc]
  rfl

theorem Lexes.of_skipBlanks (h : Lexes (skipBlanks s) ls) : Lexes s ls := by
  induction s with
  | nil => exact h
  | cons c s ih =>
    rw [skipBlanks, List.dropWhile_cons] at h
    split at h
    · next hc => exact .blank hc (ih h)
    · exact h

/-- Behind white space there is a lexeme, if there are any. -/
theorem Lexes.exists_cons (h : Lexes s (l :: ls)) : ∃ w x, skipBlanks s = w ++ x ∧ l.Writes w ∧ Lexes x ls := by
  generalize hks : l :: ls = ks at h
  induction h with
  | nil => cases hks
  | blank hc _ ih =>
    obtain ⟨w, x, heq, hrest⟩ := ih hks
    refine ⟨w, x, ?_, hrest⟩
    rw [skipBlanks, List.dropWhile_cons, hc]
    exact heq
  | cons hw h _ =>
    obtain ⟨rfl, rfl⟩ := List.cons.inj hks
    exact ⟨_, _, hw.skipBlanks_append _, hw, h⟩

theorem Lexes.skipBlanks_eq_nil (h : Lexes s []) : skipBlanks s = [] := by
  generalize hks : [] = ks at h
  induction h with
  | nil => rfl
  | blank hc _ ih =>
    rw [skipBlanks, List.dropWhile_cons, hc]
    exact ih hks
  | cons => cases hks

/-- Behind a value there is the end, or white space, or a sign. -/
theorem Lexes.ends (h : Lexes s ls) (hls : ∀ l ∈ ls.head?, ∃ c, l = .sign c) : Ends s := by
  cases h with
  | nil => simp [Ends]
  | blank hc _ => exact fun d hd => .inl (Option.some.inj hd ▸ hc)
  | cons hw _ =>
    obtain ⟨c, rfl⟩ := hls _ rfl
    cases hw with
    | sign hc => exact fun d hd => .inr (Option.some.inj hd ▸ hc)

theorem unifyLines_cons (hc : c ≠ '\r') (s : List Char) :
    Folder.unifyLines (c :: s) = c :: Folder.unifyLines s := by
  rw [Folder.unifyLines.eq_def]
  split
  · next heq => cases heq
  · next heq => exact absurd (List.cons.inj heq).1 hc
  · next heq => exact absurd (List.cons.inj heq).1 hc
  · next heq =>
    obtain ⟨rfl, rfl⟩ := List.cons.inj heq
    rfl

theorem unifyLines_return (hs : ∀ r, s ≠ '\n' :: r) :
    Folder.unifyLines ('\r' :: s) = '\n' :: Folder.unifyLines s := by
  rw [Folder.unifyLines.eq_def]
  split
  · next heq => cases heq
  · next heq => exact absurd (List.cons.inj heq).2 (hs _)
  · next heq =>
    obtain ⟨-, rfl⟩ := List.cons.inj heq
    rfl
  · next hne heq => exact absurd (List.cons.inj heq).1.symm hne

/-- Within a line nothing is changed. -/
theorem unifyLines_append (hw : ∀ c ∈ w, 0x20 ≤ c.toNat) (s : List Char) :
    Folder.unifyLines (w ++ s) = w ++ Folder.unifyLines s := by
  induction w with
  | nil => rfl
  | cons c w ih =>
    obtain ⟨hc, hw⟩ := List.forall_mem_cons.1 hw
    have hreturn : c ≠ '\r' := fun heq => absurd hc (heq ▸ by decide)
    rw [List.cons_append, unifyLines_cons hreturn, ih hw, List.cons_append]

theorem exists_of_unifyLines_eq (hw : ∀ c ∈ w, 0x20 ≤ c.toNat) (h : Folder.unifyLines s = w ++ x) :
    ∃ r, s = w ++ r ∧ Folder.unifyLines r = x := by
  induction w generalizing s with
  | nil => exact ⟨s, rfl, h⟩
  | cons c w ih =>
    obtain ⟨hc, htail⟩ := List.forall_mem_cons.1 hw
    have hfeed : c ≠ '\n' := fun heq => absurd hc (heq ▸ by decide)
    cases s with
    | nil => cases h
    | cons d s =>
      have hreturn : d ≠ '\r' := by
        rintro rfl
        by_cases hs : ∃ r, s = '\n' :: r
        · obtain ⟨r, rfl⟩ := hs
          exact hfeed (List.cons.inj h).1.symm
        · rw [unifyLines_return (not_exists.1 hs)] at h
          exact hfeed (List.cons.inj h).1.symm
      rw [unifyLines_cons hreturn] at h
      obtain ⟨rfl, hrest⟩ := List.cons.inj h
      obtain ⟨r, rfl, hr⟩ := ih htail hrest
      exact ⟨r, rfl, hr⟩

/-- Line ends of any kind are white space, and so they are as line feeds. -/
theorem lexes_unifyLines_iff : Lexes (Folder.unifyLines s) ls ↔ Lexes s ls := by
  constructor
  · intro h
    generalize hr : Folder.unifyLines s = r at h
    -- on the lexemes of what is read; a blank of it may be a line end of two characters
    induction h generalizing s with
    | nil =>
      cases s with
      | nil => exact .nil
      | cons c s =>
        unfold Folder.unifyLines at hr
        split at hr
        case h_1 heq => cases heq
        all_goals cases hr
    | @blank c r ls hc _ ih =>
      unfold Folder.unifyLines at hr
      split at hr
      · cases hr
      · exact .blank rfl (.blank rfl (ih (List.cons.inj hr).2))
      · exact .blank rfl (ih (List.cons.inj hr).2)
      · obtain ⟨rfl, htail⟩ := List.cons.inj hr
        exact .blank hc (ih htail)
    | cons hw _ ih =>
      obtain ⟨x, rfl, hx⟩ := exists_of_unifyLines_eq hw.le_toNat hr
      exact .cons hw (ih hx)
  · intro h
    induction h with
    | nil => exact .nil
    | @blank c s ls hc _ ih =>
      by_cases hreturn : c = '\r'
      · subst hreturn
        by_cases hs : ∃ r, s = '\n' :: r
        · obtain ⟨r, rfl⟩ := hs
          rwa [unifyLines_cons (by decide)] at ih
        · rw [unifyLines_return (not_exists.1 hs)]
          exact .blank rfl ih
      · rw [unifyLines_cons hreturn]
        exact .blank hc ih
    | cons hw _ ih =>
      rw [unifyLines_append hw.le_toNat]
      exact .cons hw ih

/-- A member whose name is there already replaces the value of the other; else it comes last. -/
theorem merged_append (ms : List (String × Value)) (k : String) (v : Value) :
    merged (ms ++ [(k, v)]) = Value.put (merged ms) k v := by
  have hlookup (k' : String) : ((ms ++ [(k, v)]).reverse.lookup k').getD .null =
      if k' = k then v else (ms.reverse.lookup k').getD .null := by
    rw [List.reverse_append, List.reverse_singleton, List.singleton_append, List.lookup_cons]
    by_cases hk : k' = k
    · simp [hk]
    · rw [beq_false_of_ne hk, if_neg hk]
  have hany : (merged ms).any (·.1 = k) = true ↔ k ∈ ms.map Prod.fst := by
    simp [merged, List.mem_eraseDups]
  have hkeys : ((ms ++ [(k, v)]).map Prod.fst).eraseDups =
      (ms.map Prod.fst).eraseDups ++ ([k].removeAll (ms.map Prod.fst)).eraseDups := by
    rw [List.map_append, List.eraseDups_append]
    rfl
  unfold Value.put
  by_cases hmem : k ∈ ms.map Prod.fst
  · have hremoved : [k].removeAll (ms.map Prod.fst) = [] := by simpa [List.removeAll] using hmem
    rw [if_pos (hany.2 hmem), merged, hkeys, hremoved, merged, List.map_map]
    simp only [List.eraseDups_nil, List.append_nil]
    refine List.map_congr_left fun k' _ => ?_
    rw [hlookup]
    by_cases hk : k' = k <;> simp [hk]
  · have hremoved : [k].removeAll (ms.map Prod.fst) = [k] := by simpa [List.removeAll] using hmem
    rw [if_neg (mt hany.1 hmem), merged, hkeys, hremoved, merged, List.map_append]
    congr 1
    · refine List.map_congr_left fun k' hk' => ?_
      have hne : k' ≠ k := fun heq => hmem (heq ▸ List.mem_eraseDups.1 hk')
      rw [hlookup, if_neg hne]
    · simp [List.eraseDups_cons]

theorem foldl_put (ms : List (String × Value)) :
    ms.foldl (fun kvs m => Value.put kvs m.1 m.2) [] = merged ms := by
  induction ms using List.reverseRecOn with
  | nil => rfl
  | append_singleton ms m ih => rw [List.foldl_append, ih, merged_append]; rfl

end

end LineTagger.Json
