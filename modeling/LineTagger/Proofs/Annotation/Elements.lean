import LineTagger.Proofs.Annotation.Markup
import LineTagger.Proofs.Annotation.References
import LineTagger.Proofs.Annotation.Spacing

/-!
A reader of numbered elements. What the XML style writes is read back as the numbers, labels and tokens it
was written of, whatever characters the labels and tokens hold.
-/

namespace LineTagger.Markup

/-- An element as it is read. -/
structure Element where
  number : Nat
  label : List Char
  text : List Char
  deriving DecidableEq, Repr

/-- The text before the first of some character, and the text behind it. -/
def cutAt (d : Char) : List Char → Option (List Char × List Char)
  | [] => none
  | c :: s => if c = d then some ([], s) else (cutAt d s).map fun (w, rest) => (c :: w, rest)

/-- White space in an attribute is read as spaces, unless it is written as a reference. -/
def spaced (c : Char) : Char := if c = '\n' ∨ c = '\r' ∨ c = '\t' then ' ' else c

/-- A value in quotes of either kind, and what follows it. -/
def readQuoted? : List Char → Option (List Char × List Char)
  | [] => none
  | quote :: s =>
    if quote = '"' ∨ quote = '\'' then do
      let (body, rest) ← cutAt quote s
      if '<' ∈ body then none
      else return (← resolve? (body.map spaced), rest)
    else none

/-- The value of an attribute with some name. -/
def readAttribute? (name s : List Char) : Option (List Char × List Char) := do
  readQuoted? (← s.dropPrefix? (' ' :: name ++ ['=']))

/-- An element and what follows it. -/
def readElement? (s : List Char) : Option (Element × List Char) := do
  let s ← s.dropPrefix? "<wi".toList
  let (digits, s) ← readAttribute? "num".toList s
  let number ← number? 10 digits
  let (label, s) ← readAttribute? "entity".toList s
  let s ← s.dropPrefix? ">".toList
  let (text, s) ← cutAt '<' s
  let text ← resolve? text
  let s ← s.dropPrefix? "/wi>".toList
  return ({ number, label, text }, s)

section

variable {s w rest value : List Char} {d : Char} {e : Element}

theorem length_of_dropPrefix? {p : List Char} (h : s.dropPrefix? p = some rest) :
    rest.length + p.length = s.length := by
  obtain ⟨p', rfl, hp⟩ := List.dropPrefix?_eq_some_iff.1 h
  rw [beq_iff_eq] at hp
  rw [hp, List.length_append]
  omega

theorem length_of_cutAt (h : cutAt d s = some (w, rest)) : rest.length ≤ s.length := by
  induction s generalizing w with
  | nil => cases h
  | cons c s ih =>
    unfold cutAt at h
    split at h
    · cases h
      exact Nat.le_succ _
    · obtain ⟨⟨v, r⟩, hv, heq⟩ := Option.map_eq_some_iff.1 h
      cases heq
      exact Nat.le_succ_of_le (ih hv)

theorem length_of_readQuoted? (h : readQuoted? s = some (value, rest)) : rest.length ≤ s.length := by
  cases s with
  | nil => cases h
  | cons c s =>
    rw [readQuoted?] at h
    split at h
    · obtain ⟨⟨body, r⟩, hcut, h⟩ := Option.bind_eq_some_iff.1 h
      dsimp only at h
      split at h
      · cases h
      · obtain ⟨v, -, heq⟩ := Option.bind_eq_some_iff.1 h
        cases heq
        exact Nat.le_succ_of_le (length_of_cutAt hcut)
    · cases h

theorem length_of_readAttribute? {name : List Char} (h : readAttribute? name s = some (value, rest)) :
    rest.length ≤ s.length := by
  obtain ⟨r, hprefix, hquoted⟩ := Option.bind_eq_some_iff.1 h
  have hr := length_of_dropPrefix? hprefix
  have hrest := length_of_readQuoted? hquoted
  omega

/-- An element is not empty. -/
theorem length_of_readElement? (h : readElement? s = some (e, rest)) : rest.length < s.length := by
  simp only [readElement?, Option.bind_eq_bind, Option.bind_eq_some_iff, Prod.exists] at h
  obtain ⟨_, h₁, _, _, h₂, _, -, _, _, h₃, _, h₄, _, _, h₅, _, -, _, h₆, heq⟩ := h
  cases heq
  have hstart := length_of_dropPrefix? h₁
  have hnumber := length_of_readAttribute? h₂
  have hlabel := length_of_readAttribute? h₃
  have hend := length_of_dropPrefix? h₄
  have htext := length_of_cutAt h₅
  have hclose := length_of_dropPrefix? h₆
  have hpositive : 0 < "<wi".toList.length := by decide
  omega

end

/-- Elements with white space around them, and nothing else. -/
def readElements? (s : List Char) : Option (List Element) :=
  if s.dropWhile isBlank = [] then some []
  else match _h : readElement? (s.dropWhile isBlank) with
    | none => none
    | some (e, rest) => (readElements? rest).map (e :: ·)
termination_by s.length
decreasing_by
  have hlength := length_of_readElement? _h
  have hdrop := (List.dropWhile_sublist isBlank (l := s)).length_le
  omega

section

variable {w rest body value : List Char} {d quote : Char}

theorem cutAt_append (h : d ∉ w) (rest : List Char) : cutAt d (w ++ d :: rest) = some (w, rest) := by
  induction w with
  | nil => rw [List.nil_append, cutAt, if_pos rfl]
  | cons c w ih =>
    rw [List.mem_cons, not_or] at h
    rw [List.cons_append, cutAt, if_neg (Ne.symm h.1), ih h.2]
    rfl

theorem readQuoted?_of_denotes (hquote : quote = '"' ∨ quote = '\'') (hfree : quote ∉ body)
    (hbody : Denotes body value) (hplain : ∀ d ∈ body, d ∉ "<>\n\r\t".toList) (rest : List Char) :
    readQuoted? (quote :: (body ++ quote :: rest)) = some (value, rest) := by
  have hspaced : body.map spaced = body := by
    refine (List.map_congr_left fun d hd => ?_).trans (List.map_id body)
    have hd := hplain d hd
    simp only [String.reduceToList, List.mem_cons, not_or] at hd
    simp [spaced, hd]
  have htag : '<' ∉ body := fun hmem => hplain _ hmem (by decide)
  simp [readQuoted?, hquote, htag, cutAt_append hfree, hspaced, hbody.resolve?_eq]

theorem readQuoted?_quotedAttribute (s rest : List Char) :
    readQuoted? (quotedAttribute s ++ rest) = some (s, rest) := by
  obtain ⟨quote, body, heq, hquote, hfree, hbody, hplain⟩ := exists_quotedAttribute s
  rw [heq, List.cons_append, List.append_assoc]
  exact readQuoted?_of_denotes hquote hfree hbody hplain rest

theorem number?_toString (n : Nat) : number? 10 (toString n).toList = some n := by
  have hfold {ds : List Char} (hds : ∀ c ∈ ds, c.isDigit = true) (m : Nat) :
      ds.foldlM (fun n c => (Json.hexValue? c).bind fun d =>
        if d < 10 then some (10 * n + d) else none) m = some (Nat.ofDigitChars 10 ds m) := by
    induction ds generalizing m with
    | nil => simp
    | cons c ds ih =>
      obtain ⟨hc, hrest⟩ := List.forall_mem_cons.1 hds
      have hdigit : c.toNat - 48 < 10 := by
        simp only [Char.isDigit_iff_toNat, Char.reduceToNat] at hc
        omega
      rw [List.foldlM_cons, Json.hexValue?, if_pos hc, Option.bind_some, if_pos hdigit, Nat.ofDigitChars_cons]
      exact ih hrest _
  have hdigits : (toString n).toList = Nat.toDigits 10 n := by simp
  rw [number?, hfold fun c hc => isDigit_of_mem_toString hc, hdigits, if_neg Nat.toDigits_ne_nil,
    Nat.ofDigitChars_ten_toDigits]

theorem dropPrefix?_append (p s : List Char) : (p ++ s).dropPrefix? p = some s :=
  List.dropPrefix?_append_of_beq s (beq_self_eq_true p)

theorem readAttribute?_append (name s : List Char) :
    readAttribute? name ((' ' :: name ++ ['=']) ++ s) = readQuoted? s := by
  rw [readAttribute?, dropPrefix?_append]
  rfl

/-- An element as a reader takes it apart. -/
theorem element_append (i : Nat) (t : Token) (rest : List Char) :
    element i t ++ rest = "<wi".toList ++ ((' ' :: "num".toList ++ ['=']) ++
      ('"' :: ((toString i).toList ++ '"' :: ((' ' :: "entity".toList ++ ['=']) ++
        (quotedAttribute t.label ++ ('>' :: (escape t.text ++ '<' :: ("/wi>".toList ++ rest)))))))) := by
  have hstart : "<wi num=\"".toList = "<wi".toList ++ (' ' :: "num".toList ++ ['=']) ++ ['"'] := by decide
  have hbetween : "\" entity=".toList = '"' :: (' ' :: "entity".toList ++ ['=']) := by decide
  have hend : "</wi>".toList = '<' :: "/wi>".toList := by decide
  unfold element
  rw [hstart, hbetween, hend]
  simp only [List.append_assoc, List.cons_append, List.nil_append]

theorem readElement?_element (i : Nat) (t : Token) (rest : List Char) :
    readElement? (element i t ++ rest) = some (⟨i, t.label, t.text⟩, rest) := by
  have hnumber (s : List Char) : readQuoted? ('"' :: ((toString i).toList ++ '"' :: s)) =
      some ((toString i).toList, s) := by
    have hplain : ∀ d ∈ (toString i).toList, d ∉ "<>\n\r\t".toList := by
      have hnone : ∀ d ∈ "<>\n\r\t".toList, d.isDigit = false :=
        List.all_iff_forall_prop.1 (by decide)
      exact fun d hd htag => Bool.eq_false_iff.1 (hnone d htag) (isDigit_of_mem_toString hd)
    exact readQuoted?_of_denotes (.inl rfl) (fun hd => absurd (isDigit_of_mem_toString hd) (by decide))
      (denotes_self fun hd => absurd (isDigit_of_mem_toString hd) (by decide)) hplain s
  have htext : '<' ∉ escape t.text := notMem_escape (by decide) t.text
  have hend (s : List Char) : ('>' :: s).dropPrefix? ">".toList = some s := dropPrefix?_append ">".toList s
  rw [element_append]
  simp only [readElement?, dropPrefix?_append, readAttribute?_append, hnumber, number?_toString,
    readQuoted?_quotedAttribute, hend, cutAt_append htext, (denotes_escape t.text).resolve?_eq,
    Option.bind_eq_bind, Option.bind_some]
  rfl

/-- Only white space in front of an element is skipped. -/
theorem dropWhile_element {sep : List Char} (h : ∀ c ∈ sep, isBlank c = true) (i : Nat) (t : Token)
    (rest : List Char) : (sep ++ element i t ++ rest).dropWhile isBlank = element i t ++ rest := by
  have hstart : "<wi".toList = '<' :: "wi".toList := by decide
  have hblank : isBlank '<' = false := by decide
  rw [List.append_assoc, List.dropWhile_append_of_pos h, element_append, hstart, List.cons_append,
    List.dropWhile_cons, hblank]
  rfl

theorem readElements?_cons {s : List Char} {e : Element}
    (h : readElement? (s.dropWhile isBlank) = some (e, rest)) :
    readElements? s = (readElements? rest).map (e :: ·) := by
  have hne : s.dropWhile isBlank ≠ [] := by
    intro hnil
    rw [hnil] at h
    cases h
  rw [readElements?, if_neg hne]
  split
  · next hnone => rw [hnone] at h; cases h
  · next hsome =>
    rw [hsome] at h
    cases h
    rfl

/-- Elements of tokens, with numbers from some number on. -/
def xmlFrom (k : Nat) (pieces : List (List Char × Token)) : List Char :=
  (pieces.zipIdx k).flatMap fun ((sep, t), i) => sep ++ element i t

theorem xmlFrom_cons (k : Nat) (sep : List Char) (t : Token) (pieces : List (List Char × Token)) :
    xmlFrom k ((sep, t) :: pieces) = sep ++ element k t ++ xmlFrom (k + 1) pieces := by
  rw [xmlFrom, List.zipIdx_cons, List.flatMap_cons]
  rfl

/-- Elements with white space in front of them are read back. -/
theorem readElements?_xmlFrom {pieces : List (List Char × Token)}
    (h : ∀ x ∈ pieces, ∀ c ∈ x.1, isBlank c = true) (k : Nat) :
    readElements? (xmlFrom k pieces) =
      some (((pieces.map Prod.snd).zipIdx k).map fun x => ⟨x.2, x.1.label, x.1.text⟩) := by
  induction pieces generalizing k with
  | nil => unfold readElements?; rfl
  | cons x pieces ih =>
    obtain ⟨sep, t⟩ := x
    obtain ⟨hsep, hpieces⟩ := List.forall_mem_cons.1 h
    have hread : readElement? ((xmlFrom k ((sep, t) :: pieces)).dropWhile isBlank) =
        some (⟨k, t.label, t.text⟩, xmlFrom (k + 1) pieces) := by
      rw [xmlFrom_cons, dropWhile_element hsep, readElement?_element]
    rw [readElements?_cons hread, ih hpieces, List.map_cons, List.zipIdx_cons, List.map_cons]
    rfl

end

/-- XML is read back: a reader of elements gets the number, the label and the text of every token in order,
whatever the labels are, and finds nothing but white space between elements. -/
theorem render_xml_elements (text : List Char) (labels : Nat → List Char) (preserve : Bool)
    (background : List Char) :
    readElements? (render text (Token.labelled labels (Token.ofText text)) .xml preserve background) =
      some ((Token.ofText text).mapIdx fun i t => ⟨i, labels i, t.text⟩) := by
  have hspaced := spaced_separated (Token.map_unlabelled_labelled labels (Token.ofText text)) preserve
  have hread := readElements?_xmlFrom (fun x hx => (hspaced x hx).1) 0
  rw [map_snd_separated] at hread
  calc readElements? (render text (Token.labelled labels (Token.ofText text)) .xml preserve background)
      _ = some (((Token.labelled labels (Token.ofText text)).zipIdx 0).map fun x =>
          ⟨x.2, x.1.label, x.1.text⟩) := hread
      _ = some ((Token.labelled labels (Token.ofText text)).mapIdx fun i t => ⟨i, t.label, t.text⟩) := by
        rw [List.mapIdx_eq_zipIdx_map]
      _ = some ((Token.ofText text).mapIdx fun i t => ⟨i, labels i, t.text⟩) := by
        rw [Token.labelled, List.mapIdx_mapIdx]
        rfl

/-- Quotes are of either kind, and references by name or by number. -/
example :
    let s := "<wi num='0' entity=\"&#x41;&apos;\">a</wi>\t<wi num=\"12\" entity='\"'>&lt;</wi>"
    readElements? s.toList = some [⟨0, ['A', '\''], ['a']⟩, ⟨12, ['"'], ['<']⟩] := by decide +kernel

end LineTagger.Markup
