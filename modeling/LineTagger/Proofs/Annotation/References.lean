import LineTagger.Json
import LineTagger.Markup
import Mathlib.Data.Bool.AllAny

/-!
References in markup: an ampersand, the name or the number of a character, and a semicolon. Text that is
written between tags, or as an attribute, is what a reader gets who undoes them.
-/

namespace LineTagger.Markup

/-- Characters that have a name. -/
def names : List (List Char × Char) := [
  ("amp".toList, '&'), ("lt".toList, '<'), ("gt".toList, '>'), ("quot".toList, '"'),
  ("apos".toList, '\'')]

/-- The number that digits write in a base. -/
def number? (base : Nat) (ds : List Char) : Option Nat :=
  if ds = [] then none
  else ds.foldlM (fun n c => (Json.hexValue? c).bind fun d =>
    if d < base then some (base * n + d) else none) 0

/-- The character of a code point, if it is one. -/
def charAt? (n : Nat) : Option Char := if n.isValidChar then some (Char.ofNat n) else none

/-- The character that a reference stands for, by what is between the ampersand and the semicolon. -/
def referent? : List Char → Option Char
  | '#' :: 'x' :: ds => (number? 16 ds).bind charAt?
  | '#' :: ds => (number? 10 ds).bind charAt?
  | name => names.lookup name

/-- Undoes the references of the rest of a text; `name` is what there is of one that has begun, last
character first. -/
def resolveFrom : Option (List Char) → List Char → Option (List Char)
  | none, [] => some []
  | some _, [] => none
  | none, c :: s => if c = '&' then resolveFrom (some []) s else (resolveFrom none s).map (c :: ·)
  | some name, c :: s =>
    if c = ';' then (referent? name.reverse).bind fun d => (resolveFrom none s).map (d :: ·)
    else resolveFrom (some (c :: name)) s

/-- A text with its references undone. -/
def resolve? (s : List Char) : Option (List Char) := resolveFrom none s

/-- Written forms and the texts they stand for: characters stand for themselves, references for theirs. -/
inductive Denotes : List Char → List Char → Prop where
  | nil : Denotes [] []
  | char {c : Char} {w s : List Char} (hc : c ≠ '&') (h : Denotes w s) : Denotes (c :: w) (c :: s)
  | reference {name w s : List Char} {c : Char} (hname : ';' ∉ name) (hc : referent? name = some c)
      (h : Denotes w s) : Denotes ('&' :: (name ++ ';' :: w)) (c :: s)

section

variable {w v s r name : List Char} {c d : Char}

theorem resolveFrom_name (hname : ';' ∉ w) (s : List Char) :
    resolveFrom (some name) (w ++ ';' :: s) =
      (referent? (name.reverse ++ w)).bind fun d => (resolveFrom none s).map (d :: ·) := by
  induction w generalizing name with
  | nil => simp [resolveFrom]
  | cons c w ih =>
    rw [List.mem_cons, not_or] at hname
    rw [List.cons_append, resolveFrom, if_neg (Ne.symm hname.1), ih hname.2, List.reverse_cons,
      List.append_assoc]
    rfl

theorem Denotes.resolve?_eq (h : Denotes w s) : resolve? w = some s := by
  unfold resolve?
  induction h with
  | nil => rfl
  | char hc _ ih => rw [resolveFrom, if_neg hc, ih]; rfl
  | reference hname hc _ ih =>
    rw [resolveFrom, if_pos rfl, resolveFrom_name hname, List.reverse_nil, List.nil_append, hc, ih]
    rfl

theorem Denotes.append (h : Denotes w s) (h' : Denotes v r) : Denotes (w ++ v) (s ++ r) := by
  induction h with
  | nil => exact h'
  | char hc _ ih => exact .char hc ih
  | reference hname hc _ ih =>
    rw [List.cons_append, List.append_assoc]
    exact .reference hname hc ih

theorem denotes_flatMap {f : Char → List Char} (hf : ∀ c, Denotes (f c) [c]) (s : List Char) :
    Denotes (s.flatMap f) s := by
  induction s with
  | nil => exact .nil
  | cons c s ih => exact (hf c).append ih

theorem denotes_self (h : '&' ∉ s) : Denotes s s := by
  induction s with
  | nil => exact .nil
  | cons c s ih =>
    rw [List.mem_cons, not_or] at h
    exact .char (Ne.symm h.1) (ih h.2)

/-- A reference by itself. -/
theorem denotes_reference (name : List Char) (hw : w = '&' :: (name ++ [';'])) (hname : ';' ∉ name)
    (hc : referent? name = some c) : Denotes w [c] :=
  hw ▸ .reference hname hc .nil

theorem denotes_escapeChar (c : Char) : Denotes (escapeChar c) [c] := by
  unfold escapeChar
  split
  · exact denotes_reference "amp".toList (by decide) (by decide) (by decide)
  · exact denotes_reference "lt".toList (by decide) (by decide) (by decide)
  · exact denotes_reference "gt".toList (by decide) (by decide) (by decide)
  · next hamp _ _ => exact .char hamp .nil

theorem denotes_attributeChar (c : Char) : Denotes (attributeChar c) [c] := by
  unfold attributeChar
  split
  · exact denotes_reference "#10".toList (by decide) (by decide) (by decide)
  · exact denotes_reference "#13".toList (by decide) (by decide) (by decide)
  · exact denotes_reference "#9".toList (by decide) (by decide) (by decide)
  · exact denotes_escapeChar c

theorem denotes_escape (s : List Char) : Denotes (escape s) s := denotes_flatMap denotes_escapeChar s

/-- What is written of a character is that character, or some of a reference, and never part of a tag. -/
theorem of_mem_escapeChar (c : Char) :
    ∀ d ∈ escapeChar c, d ∉ "<>".toList ∧ (d = c ∨ d ∈ "&amp;lt;gt;".toList) := by
  unfold escapeChar
  split
  · exact List.all_iff_forall_prop.1 (by decide)
  · exact List.all_iff_forall_prop.1 (by decide)
  · exact List.all_iff_forall_prop.1 (by decide)
  · next _ hlt hgt =>
    have htag : c ≠ '<' ∧ c ≠ '>' := ⟨hlt, hgt⟩
    exact List.forall_mem_singleton.2 ⟨by simpa using htag, .inl rfl⟩

/-- Text between tags holds nothing of a tag. -/
theorem notMem_escape {c : Char} (hc : c ∈ "<>".toList) (s : List Char) : c ∉ escape s := by
  intro hmem
  obtain ⟨d, -, hmem⟩ := List.mem_flatMap.1 hmem
  exact (of_mem_escapeChar _ _ hmem).1 hc

theorem of_mem_attributeChar (c : Char) :
    ∀ d ∈ attributeChar c, d ∉ "<>\n\r\t".toList ∧ (d = c ∨ d ∈ "&amp;lt;gt;#10;#13;#9;".toList) := by
  unfold attributeChar
  split
  · exact List.all_iff_forall_prop.1 (by decide)
  · exact List.all_iff_forall_prop.1 (by decide)
  · exact List.all_iff_forall_prop.1 (by decide)
  · next hfeed hreturn htab =>
    intro d hd
    obtain ⟨htag, rfl | hd⟩ := of_mem_escapeChar c d hd
    · have hblank : d ≠ '\n' ∧ d ≠ '\r' ∧ d ≠ '\t' := ⟨hfeed, hreturn, htab⟩
      exact ⟨by simp_all, .inl rfl⟩
    · have hreference : ∀ d ∈ "&amp;lt;gt;".toList,
          d ∉ "<>\n\r\t".toList ∧ d ∈ "&amp;lt;gt;#10;#13;#9;".toList :=
        List.all_iff_forall_prop.1 (by decide)
      exact ⟨(hreference d hd).1, .inr (hreference d hd).2⟩

/-- What is written in double quotes for a character of a value with both kinds of quotes. -/
def spellQuote (c : Char) : List Char := if c = '"' then "&quot;".toList else [c]

theorem of_mem_spellQuote (h : d ∈ spellQuote c) : (d = c ∧ d ≠ '"') ∨ d ∈ "&quot;".toList := by
  unfold spellQuote at h
  split at h
  · exact .inr h
  · next hc =>
    obtain rfl := List.mem_singleton.1 h
    exact .inl ⟨rfl, hc⟩

theorem flatMap_spellQuote (h : '"' ∉ w) : w.flatMap spellQuote = w := by
  induction w with
  | nil => rfl
  | cons c w ih =>
    rw [List.mem_cons, not_or] at h
    rw [List.flatMap_cons, ih h.2, spellQuote, if_neg (Ne.symm h.1)]
    rfl

theorem denotes_spellQuote (c : Char) : Denotes ((attributeChar c).flatMap spellQuote) [c] := by
  by_cases hc : c = '"'
  · subst hc
    exact denotes_reference "quot".toList (by decide) (by decide) (by decide)
  · have hquote : '"' ∉ attributeChar c := fun hmem =>
      hc ((of_mem_attributeChar _ _ hmem).2.resolve_right (by decide)).symm
    rw [flatMap_spellQuote hquote]
    exact denotes_attributeChar c

/-- A value in quotes: what is written of it holds no quote like those around it, nothing of a tag, and of
white space only spaces. -/
theorem exists_quotedAttribute (s : List Char) : ∃ q body, quotedAttribute s = q :: (body ++ [q]) ∧
    (q = '"' ∨ q = '\'') ∧ q ∉ body ∧ Denotes body s ∧ ∀ d ∈ body, d ∉ "<>\n\r\t".toList := by
  have hbody : Denotes (s.flatMap attributeChar) s := denotes_flatMap denotes_attributeChar s
  have hplain : ∀ d ∈ s.flatMap attributeChar, d ∉ "<>\n\r\t".toList := by
    intro d hd
    obtain ⟨c, -, hd⟩ := List.mem_flatMap.1 hd
    exact (of_mem_attributeChar c d hd).1
  -- a quote in what is written is one of the value
  have hquote {q : Char} (hq : q ∉ "&amp;lt;gt;#10;#13;#9;".toList) (hs : ¬s.contains q = true) :
      q ∉ s.flatMap attributeChar := by
    intro hmem
    obtain ⟨c, hc, hmem⟩ := List.mem_flatMap.1 hmem
    obtain rfl := (of_mem_attributeChar _ _ hmem).2.resolve_right hq
    exact hs (List.contains_iff_mem.2 hc)
  by_cases hdouble : s.contains '"' = true
  · by_cases hsingle : s.contains '\'' = true
    · refine ⟨'"', (s.flatMap attributeChar).flatMap spellQuote, ?_, .inl rfl, ?_, ?_, ?_⟩
      · rw [quotedAttribute, if_pos hdouble, if_pos hsingle]
        rfl
      · intro hmem
        obtain ⟨c, -, hmem⟩ := List.mem_flatMap.1 hmem
        exact ((of_mem_spellQuote hmem).resolve_right (by decide)).2 rfl
      · rw [List.flatMap_assoc]
        exact denotes_flatMap denotes_spellQuote s
      · intro d hd
        obtain ⟨c, hc, hd⟩ := List.mem_flatMap.1 hd
        obtain ⟨rfl, -⟩ | hd := of_mem_spellQuote hd
        · exact hplain d hc
        · have hreference : ∀ d ∈ "&quot;".toList, d ∉ "<>\n\r\t".toList :=
            List.all_iff_forall_prop.1 (by decide)
          exact hreference d hd
    · refine ⟨'\'', _, ?_, .inr rfl, hquote (by decide) hsingle, hbody, hplain⟩
      rw [quotedAttribute, if_pos hdouble, if_neg hsingle]
      rfl
  · refine ⟨'"', _, ?_, .inl rfl, hquote (by decide) hdouble, hbody, hplain⟩
    rw [quotedAttribute, if_neg hdouble]
    rfl

end

end LineTagger.Markup
