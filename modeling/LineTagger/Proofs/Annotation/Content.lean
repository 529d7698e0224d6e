import LineTagger.Proofs.Annotation.References

/-!
Well-formed content, as XML 1.0 has it: what may stand between the start tag and the end tag of one element
around it. Tags have names, and an element ends with the tag of the name it began with; all other text has
its markup written as references, and every character is one that XML allows.
-/

namespace LineTagger

/-- Whether a character lies in one of some ranges. -/
def Ranges.Within (rs : Ranges) (c : Char) : Prop := ∃ r ∈ rs, r.1 ≤ c.toNat ∧ c.toNat ≤ r.2

instance (rs : Ranges) (c : Char) : Decidable (rs.Within c) := inferInstanceAs (Decidable (∃ r ∈ rs, _))

theorem Ranges.Within.mono {rs ts : Ranges} {c : Char} (h : rs.Within c)
    (hts : ∀ r ∈ rs, ∃ t ∈ ts, t.1 ≤ r.1 ∧ r.2 ≤ t.2) : ts.Within c := by
  obtain ⟨r, hr, hlo, hhi⟩ := h
  obtain ⟨t, ht, hlow, hhigh⟩ := hts r hr
  exact ⟨t, ht, Nat.le_trans hlow hlo, Nat.le_trans hhi hhigh⟩

namespace Xml

/-- The characters that XML allows: no surrogates, and of the control characters only three. -/
def allowedRanges : Ranges := [(0x9, 0xA), (0xD, 0xD), (0x20, 0xD7FF), (0xE000, 0xFFFD), (0x10000, 0x10FFFF)]

/-- The characters with which a name may start. -/
def nameStartRanges : Ranges := [
  (0x3A, 0x3A), (0x41, 0x5A), (0x5F, 0x5F), (0x61, 0x7A), (0xC0, 0xD6), (0xD8, 0xF6), (0xF8, 0x2FF),
  (0x370, 0x37D), (0x37F, 0x1FFF), (0x200C, 0x200D), (0x2070, 0x218F), (0x2C00, 0x2FEF), (0x3001, 0xD7FF),
  (0xF900, 0xFDCF), (0xFDF0, 0xFFFD), (0x10000, 0xEFFFF)]

/-- The characters with which a name may go on: hyphens, points, digits and others, too. -/
def nameRanges : Ranges := nameStartRanges ++
  [(0x2D, 0x2E), (0x30, 0x39), (0xB7, 0xB7), (0x300, 0x36F), (0x203F, 0x2040)]

def IsAllowed (c : Char) : Prop := allowedRanges.Within c

instance (c : Char) : Decidable (IsAllowed c) := inferInstanceAs (Decidable (allowedRanges.Within c))

def IsName (w : List Char) : Prop := (∃ c ∈ w.head?, nameStartRanges.Within c) ∧ ∀ c ∈ w, nameRanges.Within c

instance (w : List Char) : Decidable (IsName w) := inferInstanceAs (Decidable (_ ∧ _))

/-- White space as markup has it. -/
def IsSpace (w : List Char) : Prop := ∀ c ∈ w, c ∈ " \t\n\r".toList

instance (w : List Char) : Decidable (IsSpace w) := inferInstanceAs (Decidable (∀ c ∈ w, _))

/-- What stands between the ampersand and the semicolon of a reference to a character. -/
def IsReference (name : List Char) : Prop := ';' ∉ name ∧ ∃ c, Markup.referent? name = some c ∧ IsAllowed c

/-- What stands between the quotes of an attribute. -/
inductive AttributeText (quote : Char) : List Char → Prop where
  | nil : AttributeText quote []
  | char {c : Char} {w : List Char} (hc : IsAllowed c) (hlt : c ≠ '<') (hamp : c ≠ '&') (hquote : c ≠ quote)
      (h : AttributeText quote w) : AttributeText quote (c :: w)
  | reference {name w : List Char} (hname : IsReference name) (h : AttributeText quote w) :
      AttributeText quote ('&' :: (name ++ ';' :: w))

/-- The attributes of a tag, each behind white space, and no two with one name. -/
inductive Attributes : List (List Char) → List Char → Prop where
  | nil : Attributes [] []
  | cons {space name before behind value w : List Char} {names : List (List Char)} {quote : Char}
      (hspace : IsSpace space) (hne : space ≠ []) (hname : IsName name) (hbefore : IsSpace before)
      (hbehind : IsSpace behind) (hquote : quote = '"' ∨ quote = '\'') (hvalue : AttributeText quote value)
      (hnew : name ∉ names) (h : Attributes names w) :
      Attributes (name :: names)
        (space ++ name ++ before ++ '=' :: (behind ++ quote :: (value ++ quote :: w)))

/-- The content of an element: characters, references, elements, comments, processing instructions and
sections that are not markup, one after another. -/
inductive Content : List Char → Prop where
  | nil : Content []
  | char {c : Char} {s : List Char} (hc : IsAllowed c) (hlt : c ≠ '<') (hamp : c ≠ '&')
      (hend : ¬"]]>".toList <+: c :: s) (h : Content s) : Content (c :: s)
  | reference {name s : List Char} (hname : IsReference name) (h : Content s) :
      Content ('&' :: (name ++ ';' :: s))
  | element {name attributes space space' body s : List Char} {names : List (List Char)}
      (hname : IsName name) (hattributes : Attributes names attributes) (hspace : IsSpace space)
      (hspace' : IsSpace space') (hbody : Content body) (h : Content s) :
      Content ('<' :: (name ++ attributes ++ space ++ '>' ::
        (body ++ '<' :: '/' :: (name ++ space' ++ '>' :: s))))
  | empty {name attributes space s : List Char} {names : List (List Char)} (hname : IsName name)
      (hattributes : Attributes names attributes) (hspace : IsSpace space) (h : Content s) :
      Content ('<' :: (name ++ attributes ++ space ++ ['/'] ++ '>' :: s))
  | comment {body s : List Char} (hbody : ∀ c ∈ body, IsAllowed c) (hend : ¬"--".toList <:+: body ++ ['-'])
      (h : Content s) : Content ('<' :: '!' :: ("--".toList ++ body ++ "-->".toList ++ s))
  | instruction {target data s : List Char} (htarget : IsName target)
      (hreserved : target.map Char.toLower ≠ "xml".toList) (hspace : ∀ c ∈ data.head?, IsSpace [c])
      (hdata : ∀ c ∈ data, IsAllowed c) (hend : ¬"?>".toList <:+: data) (h : Content s) :
      Content ('<' :: '?' :: (target ++ data ++ "?>".toList ++ s))
  | raw {data s : List Char} (hdata : ∀ c ∈ data, IsAllowed c) (hend : ¬"]]>".toList <:+: data)
      (h : Content s) : Content ('<' :: '!' :: ("[CDATA[".toList ++ data ++ "]]>".toList ++ s))

/-- Two texts that are one, cut at some character each, are cut at one place if neither character occurs before
the other. -/
theorem cut_eq {c d : Char} {u v x y : List Char} (hu : d ∉ u) (hv : c ∉ v) (h : u ++ c :: x = v ++ d :: y) :
    u = v ∧ c = d ∧ x = y := by
  induction u generalizing v with
  | nil =>
    cases v with
    | nil => simpa using h
    | cons e v => exact absurd (List.cons.inj h).1 fun heq => hv (heq ▸ List.mem_cons_self)
  | cons e u ih =>
    cases v with
    | nil => exact absurd (List.cons.inj h).1.symm fun heq => hu (heq ▸ List.mem_cons_self)
    | cons e' v =>
      obtain ⟨rfl, htail⟩ := List.cons.inj h
      rw [List.mem_cons, not_or] at hu hv
      obtain ⟨rfl, hrest⟩ := ih hu.2 hv.2 htail
      exact ⟨rfl, hrest⟩

section

variable {c quote : Char} {w s name attributes : List Char} {names : List (List Char)}

theorem isAllowed_of_nameRanges (h : nameRanges.Within c) : IsAllowed c := h.mono (by decide)

theorem IsSpace.isAllowed (h : IsSpace w) : ∀ c ∈ w, IsAllowed c := by
  have hspace : ∀ c ∈ " \t\n\r".toList, IsAllowed c := by decide
  exact fun c hc => hspace c (h c hc)

/-- A name is not empty, and no sign of markup starts it. -/
theorem IsName.exists_cons (h : IsName w) :
    ∃ c v, w = c :: v ∧ c ∉ "/!?>".toList := by
  obtain ⟨⟨c, hc, hstart⟩, -⟩ := h
  obtain ⟨v, rfl⟩ := List.head?_eq_some_iff.1 hc
  have hsigns : ∀ d ∈ "/!?>".toList, ¬nameStartRanges.Within d := by decide
  exact ⟨c, v, rfl, fun hsign => hsigns c hsign hstart⟩

theorem within_of_hexValue? (h : Json.hexValue? c ≠ none) : nameRanges.Within c := by
  have hnat : c.val.toNat = c.toNat := rfl
  unfold Json.hexValue? at h
  split at h
  · next hdigit =>
    simp only [Char.isDigit_iff_toNat, Char.reduceToNat] at hdigit
    exact ⟨(0x30, 0x39), by decide, hdigit⟩
  · split at h
    · next hlow =>
      simp only [Char.le_def, UInt32.le_iff_toNat_le, Char.reduceVal, UInt32.reduceToNat] at hlow
      exact ⟨(0x61, 0x7A), by decide, by omega, by omega⟩
    · split at h
      · next hhigh =>
        simp only [Char.le_def, UInt32.le_iff_toNat_le, Char.reduceVal, UInt32.reduceToNat] at hhigh
        exact ⟨(0x41, 0x5A), by decide, by omega, by omega⟩
      · exact absurd rfl h

theorem within_of_number? {base n : Nat} (h : Markup.number? base w = some n) :
    ∀ c ∈ w, nameRanges.Within c := by
  have hfold {w : List Char} {m : Nat} (h : w.foldlM (fun n c => (Json.hexValue? c).bind fun d =>
      if d < base then some (base * n + d) else none) m = some n) : ∀ c ∈ w, nameRanges.Within c := by
    induction w generalizing m with
    | nil => simp
    | cons d w ih =>
      rw [List.foldlM_cons] at h
      obtain ⟨k, hk, hrest⟩ := Option.bind_eq_some_iff.1 h
      obtain ⟨v, hv, -⟩ := Option.bind_eq_some_iff.1 hk
      exact List.forall_mem_cons.2 ⟨within_of_hexValue? (by simp [hv]), ih hrest⟩
  unfold Markup.number? at h
  split at h
  · cases h
  · exact hfold h

/-- A reference is written with a number sign and characters of names. -/
theorem IsReference.within (h : IsReference name) : ∀ c ∈ name, c = '#' ∨ nameRanges.Within c := by
  have hnames : ∀ x ∈ Markup.names, ∀ c ∈ x.1, nameRanges.Within c := by decide
  have hx : nameRanges.Within 'x' := by decide
  obtain ⟨-, c, hc, -⟩ := h
  unfold Markup.referent? at hc
  split at hc
  · obtain ⟨n, hn, -⟩ := Option.bind_eq_some_iff.1 hc
    exact List.forall_mem_cons.2 ⟨.inl rfl, List.forall_mem_cons.2
      ⟨.inr hx, fun d hd => .inr (within_of_number? hn d hd)⟩⟩
  · obtain ⟨n, hn, -⟩ := Option.bind_eq_some_iff.1 hc
    exact List.forall_mem_cons.2 ⟨.inl rfl, fun d hd => .inr (within_of_number? hn d hd)⟩
  · obtain ⟨before, after, hlist, -⟩ := List.lookup_eq_some_iff.1 hc
    have hmem : (name, c) ∈ Markup.names := hlist ▸ List.mem_append_right before List.mem_cons_self
    exact fun d hd => .inr (hnames _ hmem d hd)

theorem IsReference.isAllowed (h : IsReference name) : ∀ c ∈ name, IsAllowed c := by
  have hsign : IsAllowed '#' := by decide
  intro c hc
  obtain rfl | hname := h.within c hc
  · exact hsign
  · exact isAllowed_of_nameRanges hname

/-- What tags are written with besides the values of attributes. -/
theorem notMem_of_within {c : Char} (hc : c ∈ "<>".toList) (h : ∀ d ∈ w, d = '#' ∨ nameRanges.Within d) :
    c ∉ w := by
  have hsigns : ∀ d ∈ "<>".toList, ¬(d = '#' ∨ nameRanges.Within d) := by decide
  exact fun hmem => hsigns c hc (h c hmem)

theorem IsName.notMem {c : Char} (hc : c ∈ "<>".toList) (h : IsName w) : c ∉ w :=
  notMem_of_within hc fun d hd => .inr (h.2 d hd)

theorem IsSpace.notMem {c : Char} (hc : c ∈ "<>".toList) (h : IsSpace w) : c ∉ w := by
  have hsigns : ∀ d ∈ "<>".toList, d ∉ " \t\n\r".toList := by decide
  exact fun hmem => hsigns c hc (h c hmem)

theorem AttributeText.isAllowed (h : AttributeText quote w) : ∀ c ∈ w, IsAllowed c := by
  have hamp : IsAllowed '&' := by decide
  have hsemicolon : IsAllowed ';' := by decide
  induction h with
  | nil => simp
  | char hc _ _ _ _ ih => exact List.forall_mem_cons.2 ⟨hc, ih⟩
  | reference hname _ ih =>
    exact List.forall_mem_cons.2 ⟨hamp, List.forall_mem_append.2
      ⟨hname.isAllowed, List.forall_mem_cons.2 ⟨hsemicolon, ih⟩⟩⟩

theorem AttributeText.lt_notMem (h : AttributeText quote w) : '<' ∉ w := by
  induction h with
  | nil => exact List.not_mem_nil
  | char _ hlt _ _ _ ih => simp [ih, Ne.symm hlt]
  | reference hname _ ih =>
    have hfree := notMem_of_within (c := '<') (by decide) hname.within
    simp [ih, hfree]

theorem isAllowed_of_quote (h : quote = '"' ∨ quote = '\'') : IsAllowed quote ∧ quote ≠ '<' := by
  obtain rfl | rfl := h <;> decide

theorem Attributes.isAllowed (h : Attributes names attributes) : ∀ c ∈ attributes, IsAllowed c := by
  have hequals : IsAllowed '=' := by decide
  induction h with
  | nil => simp
  | cons hspace _ hname hbefore hbehind hquote hvalue _ _ ih =>
    have hq := (isAllowed_of_quote hquote).1
    simp only [List.forall_mem_append, List.forall_mem_cons]
    exact ⟨⟨⟨hspace.isAllowed, fun c hc => isAllowed_of_nameRanges (hname.2 c hc)⟩, hbefore.isAllowed⟩,
      hequals, hbehind.isAllowed, hq, hvalue.isAllowed, hq, ih⟩

theorem Attributes.lt_notMem (h : Attributes names attributes) : '<' ∉ attributes := by
  induction h with
  | nil => exact List.not_mem_nil
  | cons hspace _ hname hbefore hbehind hquote hvalue _ _ ih =>
    have hq := (isAllowed_of_quote hquote).2
    have htag : '<' ∈ "<>".toList := by decide
    simp [hspace.notMem htag, hname.notMem htag, hbefore.notMem htag, hbehind.notMem htag, hvalue.lt_notMem,
      Ne.symm hq, ih]

/-- Well-formed content holds only characters that XML allows. -/
theorem Content.isAllowed (h : Content s) : ∀ c ∈ s, IsAllowed c := by
  have hsigns : ∀ c ∈ "<>&;/!?-[]".toList, IsAllowed c := by decide
  have hletters : ∀ c ∈ "[CDATA[".toList, IsAllowed c := by decide
  have hname {w : List Char} (h : IsName w) : ∀ c ∈ w, IsAllowed c := fun c hc =>
    isAllowed_of_nameRanges (h.2 c hc)
  simp only [String.reduceToList, List.forall_mem_cons] at hsigns hletters
  induction h with
  | nil => simp
  | char hc _ _ _ _ ih => exact List.forall_mem_cons.2 ⟨hc, ih⟩
  | reference href _ ih =>
    simp only [List.forall_mem_append, List.forall_mem_cons]
    exact ⟨by simp [hsigns], href.isAllowed, by simp [hsigns], ih⟩
  | element hn hattributes hspace hspace' _ _ ihbody ih =>
    simp only [List.forall_mem_append, List.forall_mem_cons]
    simp only [hsigns, true_and]
    exact ⟨⟨⟨hname hn, hattributes.isAllowed⟩, hspace.isAllowed⟩, ihbody, ⟨hname hn, hspace'.isAllowed⟩, ih⟩
  | empty hn hattributes hspace _ ih =>
    simp only [List.forall_mem_append, List.forall_mem_cons]
    simp only [hsigns, true_and]
    exact ⟨⟨⟨⟨hname hn, hattributes.isAllowed⟩, hspace.isAllowed⟩, by simp⟩, ih⟩
  | comment hbody _ _ ih =>
    simp only [String.reduceToList, List.forall_mem_append, List.forall_mem_cons]
    simp only [hsigns, true_and]
    exact ⟨⟨⟨by simp, hbody⟩, by simp⟩, ih⟩
  | instruction htarget _ _ hdata _ _ ih =>
    simp only [String.reduceToList, List.forall_mem_append, List.forall_mem_cons]
    simp only [hsigns, true_and]
    exact ⟨⟨⟨hname htarget, hdata⟩, by simp⟩, ih⟩
  | raw hdata _ _ ih =>
    simp only [String.reduceToList, List.forall_mem_append, List.forall_mem_cons]
    simp only [hsigns, hletters, true_and]
    exact ⟨⟨⟨by simp, hdata⟩, by simp⟩, ih⟩

/-- A name, with white space behind it or not: what an end tag holds behind its slash. -/
def IsTagName (label : List Char) : Prop := ∃ name space, label = name ++ space ∧ IsName name ∧ IsSpace space

theorem isTagName_iff {label : List Char} :
    IsTagName label ↔ IsName (label.takeWhile (· ∉ " \t\n\r".toList)) ∧
      IsSpace (label.dropWhile (· ∉ " \t\n\r".toList)) := by
  constructor
  · rintro ⟨name, space, rfl, hname, hspace⟩
    have hblanks : ∀ d ∈ " \t\n\r".toList, ¬nameRanges.Within d := by decide
    have hsolid : ∀ c ∈ name, decide (c ∉ " \t\n\r".toList) = true := fun c hc =>
      decide_eq_true fun hblank => hblanks c hblank (hname.2 c hc)
    have hhead : ∀ c ∈ space.head?, decide (c ∉ " \t\n\r".toList) = false := fun c hc =>
      decide_eq_false (not_not_intro (hspace c (List.mem_of_mem_head? hc)))
    rw [List.takeWhile_append_of_pos hsolid, List.dropWhile_append_of_pos hsolid]
    cases space with
    | nil => simpa using ⟨hname, hspace⟩
    | cons c space =>
      rw [List.takeWhile_cons, List.dropWhile_cons, hhead c rfl]
      simpa using ⟨hname, hspace⟩
  · rintro ⟨hname, hspace⟩
    exact ⟨_, _, List.takeWhile_append_dropWhile.symm, hname, hspace⟩

instance (label : List Char) : Decidable (IsTagName label) := decidable_of_iff _ isTagName_iff.symm

/-- Behind the sign that starts a tag there is no slash: an end tag starts no content. -/
theorem Content.not_slash (h : Content ('<' :: '/' :: s)) : False := by
  generalize hs : '<' :: '/' :: s = r at h
  cases h with
  | nil => cases hs
  | char _ hlt _ _ _ => exact hlt (List.cons.inj hs).1.symm
  | reference => simp at hs
  | element hname _ _ _ _ _ | empty hname _ _ _ =>
    obtain ⟨c, v, rfl, hsign⟩ := hname.exists_cons
    simp only [List.cons_append, List.cons.injEq, true_and] at hs
    exact hsign (hs.1 ▸ by decide)
  | comment | instruction | raw => simp at hs

/-- Text in front of content is left off as it is written: by characters and references. -/
theorem Content.of_append {t : List Char} (hw : Markup.Denotes w t) (hlt : '<' ∉ w) (h : Content (w ++ s)) :
    Content s := by
  induction hw with
  | nil => exact h
  | @char c w t hamp _ ih =>
    rw [List.mem_cons, not_or] at hlt
    generalize hs : c :: w ++ s = r at h
    cases h with
    | nil => cases hs
    | char _ _ _ _ h =>
      obtain ⟨rfl, rfl⟩ := List.cons.inj hs
      exact ih hlt.2 h
    | reference => exact absurd (List.cons.inj hs).1 hamp
    | element | empty | comment | instruction | raw => exact absurd (List.cons.inj hs).1.symm hlt.1
  | @reference name w t c hname _ _ ih =>
    simp only [List.mem_cons, List.mem_append, not_or] at hlt
    generalize hs : '&' :: (name ++ ';' :: w) ++ s = r at h
    cases h with
    | nil => cases hs
    | char _ _ hamp _ _ => exact absurd (List.cons.inj hs).1.symm hamp
    | @reference name' s' hname' h =>
      have hcut : name ++ ';' :: (w ++ s) = name' ++ ';' :: s' := by simpa using hs
      -- the first semicolon ends the name
      obtain ⟨rfl, -, rfl⟩ := cut_eq hname hname'.1 hcut
      exact ih hlt.2.2.2 h
    | element | empty | comment | instruction | raw => simp at hs

/-- A start tag ends at its first `>` when there is one more sign of markup behind, and that starts a tag. -/
theorem tag_eq {label x y z : List Char} (hx : '<' ∉ x) (hlabel : '>' ∉ label) (hw : '>' ∉ w)
    (h : x ++ '>' :: y = label ++ '>' :: (w ++ '<' :: z)) : x = label ∧ y = w ++ '<' :: z := by
  by_cases hmem : '>' ∈ x
  · obtain ⟨a, b, rfl, ha⟩ := List.eq_append_cons_of_mem hmem
    simp only [List.mem_append, List.mem_cons, not_or] at hx
    rw [List.append_assoc, List.cons_append] at h
    obtain ⟨-, -, hrest⟩ := cut_eq ha hlabel h
    exact absurd (cut_eq hx.2.2 hw hrest).2.1 (by decide)
  · obtain ⟨rfl, -, hrest⟩ := cut_eq hmem hlabel h
    exact ⟨rfl, hrest⟩

/-- Content in front of an end tag is what is written there, when that is text. -/
theorem Content.body_eq {body t x y : List Char} (hbody : Content body) (hw : Markup.Denotes w t)
    (hlt : '<' ∉ w) (h : body ++ '<' :: '/' :: x = w ++ '<' :: '/' :: y) : body = w ∧ x = y := by
  by_cases hmem : '<' ∈ body
  · -- a tag in the body would start where the end tag does
    obtain ⟨a, b, rfl, ha⟩ := List.eq_append_cons_of_mem hmem
    rw [List.append_assoc, List.cons_append] at h
    obtain ⟨rfl, -, hrest⟩ := cut_eq ha hlt h
    cases b with
    | nil => exact absurd (List.cons.inj hrest).1 (by decide)
    | cons d b =>
      obtain ⟨rfl, -⟩ := List.cons.inj hrest
      exact (hbody.of_append hw hlt).not_slash.elim
  · obtain ⟨rfl, -, hrest⟩ := cut_eq hmem hlt h
    exact ⟨rfl, (List.cons.inj hrest).2⟩

/-- Text between a start tag and an end tag that are written with one label, which holds no sign of a tag and
does not begin as comments and instructions do, is an element: the label is a name. -/
theorem Content.of_tags {label t : List Char} (hlabel : '>' ∉ label) (hcomment : label.head? ≠ some '!')
    (hinstruction : label.head? ≠ some '?') (hw : Markup.Denotes w t) (hlt : '<' ∉ w) (hgt : '>' ∉ w)
    (h : Content ('<' :: (label ++ '>' :: (w ++ '<' :: '/' :: (label ++ '>' :: s))))) :
    IsTagName label ∧ Content s := by
  generalize hs : '<' :: (label ++ '>' :: (w ++ '<' :: '/' :: (label ++ '>' :: s))) = r at h
  cases h with
  | nil => cases hs
  | char _ hne _ _ _ => exact absurd (List.cons.inj hs).1.symm hne
  | reference => simp at hs
  | @element name attributes space space' body s' names hname hattributes hspace hspace' hbody h =>
    obtain ⟨-, hs⟩ := List.cons.inj hs
    have hstart : '<' ∉ name ++ attributes ++ space := by
      have hname := hname.notMem (c := '<') (by decide)
      have hspace := hspace.notMem (c := '<') (by decide)
      simp [hname, hspace, hattributes.lt_notMem]
    have hend : '>' ∉ name ++ space' := by
      have hname := hname.notMem (c := '>') (by decide)
      have hspace := hspace'.notMem (c := '>') (by decide)
      simp [hname, hspace]
    obtain ⟨-, hrest⟩ := tag_eq hstart hlabel hgt hs.symm
    obtain ⟨-, hclose⟩ := hbody.body_eq hw hlt hrest
    obtain ⟨rfl, -, rfl⟩ := cut_eq hend hlabel hclose
    exact ⟨⟨name, space', rfl, hname, hspace'⟩, h⟩
  | @empty name attributes space s' names hname hattributes hspace h =>
    obtain ⟨-, hs⟩ := List.cons.inj hs
    have hstart : '<' ∉ name ++ attributes ++ space ++ ['/'] := by
      have hname := hname.notMem (c := '<') (by decide)
      have hspace := hspace.notMem (c := '<') (by decide)
      simp [hname, hspace, hattributes.lt_notMem]
    obtain ⟨-, rfl⟩ := tag_eq hstart hlabel hgt hs.symm
    -- the start tag ends as an empty element, and leaves the end tag to the content behind it
    exact (h.of_append hw hlt).not_slash.elim
  | comment | instruction | raw =>
    cases label with
    | nil => simp at hs
    | cons c label =>
      simp only [List.cons_append, List.cons.injEq, true_and] at hs
      simp [hs.1] at hcomment hinstruction

/-- Content in which no `>` stands before the first tag. Text can stand in front of it. -/
structure Flow (s : List Char) : Prop where
  content : Content s
  noEnd : '>' ∉ s.takeWhile (· ≠ '<')

theorem Flow.nil : Flow [] := ⟨.nil, by simp⟩

theorem Flow.of_tag (h : Content ('<' :: s)) : Flow ('<' :: s) := ⟨h, by simp⟩

theorem Flow.char (h : Flow s) (hc : IsAllowed c) (hfree : c ∉ "&<>".toList) : Flow (c :: s) := by
  have hne : c ≠ '&' ∧ c ≠ '<' ∧ c ≠ '>' := by simpa using hfree
  have hend : ¬"]]>".toList <+: c :: s := by
    rintro ⟨r, hr⟩
    have hs : s = ']' :: '>' :: r := (List.cons.inj hr).2.symm
    exact h.noEnd (by simp [hs])
  refine ⟨.char hc hne.2.1 hne.1 hend h.content, ?_⟩
  simpa [hne.2.1, Ne.symm hne.2.2] using h.noEnd

theorem Flow.reference (h : Flow s) (hname : IsReference name) : Flow ('&' :: (name ++ ';' :: s)) := by
  have hlt : ∀ c ∈ name, (decide (c ≠ '<')) = true := by
    have hfree := notMem_of_within (c := '<') (by decide) hname.within
    exact fun c hc => decide_eq_true fun heq => hfree (heq ▸ hc)
  have hgt := notMem_of_within (c := '>') (by decide) hname.within
  refine ⟨.reference hname h.content, ?_⟩
  rw [List.takeWhile_cons_of_pos (by decide), List.takeWhile_append_of_pos hlt,
    List.takeWhile_cons_of_pos (by decide)]
  simpa [hgt] using h.noEnd

end

end Xml

end LineTagger
