import LineTagger.Proofs.Annotation.Content
import LineTagger.Proofs.Annotation.Elements
import LineTagger.Proofs.Annotation.LongestMatch
import LineTagger.Proofs.Annotation.OneLine
import LineTagger.Proofs.Annotation.Runs
import LineTagger.Proofs.Annotation.VisibleText
import LineTagger.Proofs.Loading

/-!
When annotated text is well-formed content. Text and attributes are written so that only characters that XML
does not allow can spoil them; in inline XML the labels are tags as they stand, and have to be names.
-/

namespace LineTagger.Markup

open Xml

section

variable {w s t label : List Char} {quote c : Char} {pieces : List (List Char × Token)} {ms : List Mark}

/-- Text that is written with its markup as references can stand in front of content. -/
theorem flow_escape (ht : ∀ c ∈ t, IsAllowed c) (h : Flow s) : Flow (escape t ++ s) := by
  induction t with
  | nil => exact h
  | cons c t ih =>
    obtain ⟨hc, ht⟩ := List.forall_mem_cons.1 ht
    have htail := ih ht
    have hwritten : escape (c :: t) ++ s = escapeChar c ++ (escape t ++ s) := by simp [escape]
    rw [hwritten]
    unfold escapeChar
    split
    · have hname : IsReference "amp".toList := ⟨by decide, '&', by decide, hc⟩
      exact htail.reference hname
    · have hname : IsReference "lt".toList := ⟨by decide, '<', by decide, hc⟩
      exact htail.reference hname
    · have hname : IsReference "gt".toList := ⟨by decide, '>', by decide, hc⟩
      exact htail.reference hname
    · next hamp hlt hgt =>
      have hfree : c ≠ '&' ∧ c ≠ '<' ∧ c ≠ '>' := ⟨hamp, hlt, hgt⟩
      exact htail.char hc (by simpa using hfree)

theorem content_escape (ht : ∀ c ∈ t, IsAllowed c) : Content (escape t) :=
  List.append_nil (escape t) ▸ (flow_escape ht .nil).content

theorem isAllowed_of_escape (h : ∀ c ∈ escape t, IsAllowed c) : ∀ c ∈ t, IsAllowed c := by
  have hmarkup : ∀ c ∈ "&<>".toList, IsAllowed c := by decide
  intro c hc
  by_cases hmem : c ∈ "&<>".toList
  · exact hmarkup c hmem
  · have hself : c ∈ escapeChar c := by
      unfold escapeChar
      split
      case h_4 => exact List.mem_singleton_self c
      all_goals exact absurd (by decide) hmem
    exact h c (List.mem_flatMap.2 ⟨c, hc, hself⟩)

/-- Text in front of content in which no tag ends before one starts. -/
theorem content_escape_iff (hs : '>' ∉ s.takeWhile (· ≠ '<')) :
    Content (escape t ++ s) ↔ (∀ c ∈ t, IsAllowed c) ∧ Content s := by
  constructor
  · intro h
    have hallowed := (List.forall_mem_append.1 h.isAllowed).1
    exact ⟨isAllowed_of_escape hallowed, h.of_append (denotes_escape t) (notMem_escape (by decide) t)⟩
  · rintro ⟨ht, h⟩
    exact (flow_escape ht ⟨h, hs⟩).content

/-- What is written of a text with references is the value of an attribute, in quotes that do not occur. -/
theorem attributeText_of_denotes (hw : Denotes w t) (hlt : '<' ∉ w) (hquote : quote ∉ w)
    (ht : ∀ c ∈ t, IsAllowed c) : AttributeText quote w := by
  induction hw with
  | nil => exact .nil
  | char hamp _ ih =>
    rw [List.mem_cons, not_or] at hlt hquote
    obtain ⟨hc, ht⟩ := List.forall_mem_cons.1 ht
    exact .char hc (Ne.symm hlt.1) hamp (Ne.symm hquote.1) (ih hlt.2 hquote.2 ht)
  | reference hname hc _ ih =>
    simp only [List.mem_cons, List.mem_append, not_or] at hlt hquote
    obtain ⟨hallowed, ht⟩ := List.forall_mem_cons.1 ht
    exact .reference ⟨hname, _, hc, hallowed⟩ (ih hlt.2.2.2 hquote.2.2.2 ht)

theorem isAllowed_of_quotedAttribute (h : ∀ c ∈ quotedAttribute t, IsAllowed c) : ∀ c ∈ t, IsAllowed c := by
  have hmarkup : ∀ c ∈ "&<>\n\r\t\"".toList, IsAllowed c := by decide
  intro c hc
  by_cases hmem : c ∈ "&<>\n\r\t\"".toList
  · exact hmarkup c hmem
  · have hself : attributeChar c = [c] := by
      unfold attributeChar
      split
      case h_4 =>
        unfold escapeChar
        split
        case h_4 => rfl
        all_goals exact absurd (by decide) hmem
      all_goals exact absurd (by decide) hmem
    have hbody : c ∈ t.flatMap attributeChar := List.mem_flatMap.2 ⟨c, hc, hself ▸ List.mem_singleton_self c⟩
    have hquote : c ≠ '"' := fun heq => hmem (heq ▸ by decide)
    have hspelled : c ∈ (t.flatMap attributeChar).flatMap fun c => if c = '"' then "&quot;".toList else [c] :=
      List.mem_flatMap.2 ⟨c, hbody, by simp [hquote]⟩
    refine h c ?_
    unfold quotedAttribute
    generalize t.flatMap attributeChar = body at hbody hspelled ⊢
    dsimp only
    split
    · split
      · exact List.mem_append_left _ (List.mem_cons_of_mem _ hspelled)
      · exact List.mem_append_left _ (List.mem_cons_of_mem _ hbody)
    · exact List.mem_append_left _ (List.mem_cons_of_mem _ hbody)

/-- Numbered elements have two attributes, of which the second holds the label. -/
theorem content_element (i : Nat) {t : Token} (ht : ∀ c ∈ t.text, IsAllowed c)
    (hlabel : ∀ c ∈ t.label, IsAllowed c) (h : Content s) : Content (element i t ++ s) := by
  obtain ⟨quote, body, hwritten, hquote, hfree, hbody, hplain⟩ := exists_quotedAttribute t.label
  have hentity : AttributeText quote body :=
    attributeText_of_denotes hbody (fun hmem => hplain _ hmem (by decide)) hfree hlabel
  have hnumber : AttributeText '"' (toString i).toList := by
    have hnone {c : Char} (hc : c.isDigit = false) : c ∉ (toString i).toList := fun hmem =>
      Bool.eq_false_iff.1 hc (isDigit_of_mem_toString hmem)
    have hdigits : ∀ c ∈ (toString i).toList, IsAllowed c := by
      intro c hc
      have hdigit := isDigit_of_mem_toString hc
      exact isAllowed_of_nameRanges (within_of_hexValue? (by simp [Json.hexValue?, hdigit]))
    exact attributeText_of_denotes (denotes_self (hnone (by decide))) (hnone (by decide)) (hnone (by decide))
      hdigits
  have hspace : IsSpace [' '] := by decide
  have hnil : IsSpace [] := by decide
  have hwi : IsName "wi".toList := by decide
  have hnum : IsName "num".toList := by decide
  have hentityName : IsName "entity".toList := by decide
  have hlast := Attributes.cons hspace (by decide) hentityName hnil hnil hquote hentity (by decide) .nil
  have hattributes := Attributes.cons hspace (by decide) hnum hnil hnil (.inl rfl) hnumber (by decide) hlast
  have helement := Content.element hwi hattributes hnil hnil (content_escape ht) h
  rw [element_append, hwritten]
  simpa using helement

theorem forall_mem_plain {P : Char → Prop} :
    (∀ c ∈ plain pieces, P c) ↔ ∀ x ∈ pieces, (∀ c ∈ x.1, P c) ∧ ∀ c ∈ x.2.text, P c := by
  simp only [plain, List.forall_mem_flatMap, List.forall_mem_append]

theorem flow_xmlFrom (hgaps : ∀ x ∈ pieces, ∀ c ∈ x.1, isBlank c = true)
    (hplain : ∀ c ∈ plain pieces, IsAllowed c) (hlabels : ∀ x ∈ pieces, ∀ c ∈ x.2.label, IsAllowed c) (k : Nat) :
    Flow (xmlFrom k pieces) := by
  induction pieces generalizing k with
  | nil => exact .nil
  | cons x pieces ih =>
    obtain ⟨sep, t⟩ := x
    obtain ⟨⟨hsep, htext⟩, hplain⟩ := List.forall_mem_cons.1 (forall_mem_plain.1 hplain)
    obtain ⟨hlabel, hlabels⟩ := List.forall_mem_cons.1 hlabels
    obtain ⟨hblank, hgaps⟩ := List.forall_mem_cons.1 hgaps
    have hrest := ih hgaps (forall_mem_plain.2 hplain) hlabels (k + 1)
    have helement := content_element k htext hlabel hrest.content
    have htag : Flow (element k t ++ xmlFrom (k + 1) pieces) := by
      have hstart : "<wi".toList = '<' :: "wi".toList := by decide
      rw [element_append, hstart, List.cons_append] at helement ⊢
      exact .of_tag helement
    have hfront := flow_escape hsep htag
    rw [escape_blank hblank] at hfront
    rw [xmlFrom_cons, List.append_assoc]
    exact hfront

theorem isAllowed_of_xmlFrom {k : Nat} (h : ∀ c ∈ xmlFrom k pieces, IsAllowed c) :
    (∀ c ∈ plain pieces, IsAllowed c) ∧ ∀ x ∈ pieces, ∀ c ∈ x.2.label, IsAllowed c := by
  rw [forall_mem_plain, ← forall₂_and]
  induction pieces generalizing k with
  | nil => simp
  | cons x pieces ih =>
    obtain ⟨sep, t⟩ := x
    rw [xmlFrom_cons, List.forall_mem_append, List.forall_mem_append] at h
    obtain ⟨⟨hsep, helement⟩, hrest⟩ := h
    have hlabel : ∀ c ∈ quotedAttribute t.label, IsAllowed c := fun c hc =>
      helement c (List.mem_append_left _ (List.mem_append_left _ (List.mem_append_right _ hc)))
    have htext : ∀ c ∈ escape t.text, IsAllowed c := fun c hc =>
      helement c (List.mem_append_left _ (List.mem_append_right _ (List.mem_cons_of_mem _ hc)))
    have hfirst := And.intro (And.intro hsep (isAllowed_of_escape htext)) (isAllowed_of_quotedAttribute hlabel)
    exact List.forall_mem_cons.2 ⟨hfirst, ih hrest⟩

/-- Numbered elements are well-formed just when what they show and their labels have only characters that XML
allows. -/
theorem content_xmlFrom_iff (hgaps : ∀ x ∈ pieces, ∀ c ∈ x.1, isBlank c = true) (k : Nat) :
    Content (xmlFrom k pieces) ↔
      (∀ c ∈ plain pieces, IsAllowed c) ∧ ∀ x ∈ pieces, ∀ c ∈ x.2.label, IsAllowed c :=
  ⟨fun h => isAllowed_of_xmlFrom h.isAllowed, fun h => (flow_xmlFrom hgaps h.1 h.2 k).content⟩

/-- A label that a start tag holds whole, and that begins neither a comment nor an instruction. -/
def IsTame (label : List Char) : Prop := '>' ∉ label ∧ label.head? ≠ some '!' ∧ label.head? ≠ some '?'

instance (label : List Char) : Decidable (IsTame label) := inferInstanceAs (Decidable (_ ∧ _))

/-- Text between the tags of such a label, in front of content, is an element just when the label is a name. -/
theorem content_tags_iff (hlabel : IsTame label) :
    Content (openTag label ++ escape t ++ closeTag label ++ s) ↔
      IsTagName label ∧ (∀ c ∈ t, IsAllowed c) ∧ Content s := by
  have hwritten : openTag label ++ escape t ++ closeTag label ++ s =
      '<' :: (label ++ '>' :: (escape t ++ '<' :: '/' :: (label ++ '>' :: s))) := by
    simp [openTag, closeTag]
  constructor
  · intro h
    have hallowed := h.isAllowed
    simp only [List.forall_mem_append] at hallowed
    rw [hwritten] at h
    have hescape : Denotes (escape t) t := denotes_escape t
    have hlt : '<' ∉ escape t := notMem_escape (by decide) t
    have hgt : '>' ∉ escape t := notMem_escape (by decide) t
    obtain ⟨hname, hs⟩ := h.of_tags hlabel.1 hlabel.2.1 hlabel.2.2 hescape hlt hgt
    exact ⟨hname, isAllowed_of_escape hallowed.1.1.2, hs⟩
  · rintro ⟨⟨name, space, rfl, hname, hspace⟩, ht, hs⟩
    have helement := Content.element hname .nil hspace hspace (content_escape ht) hs
    rw [hwritten]
    simpa using helement

namespace Mark

/-- What a mark shows. -/
def visible : Mark → List Char
  | .opening _ | .closing _ => []
  | .gap s | .word s => s

theorem text_eq_escape {m : Mark} (hm : m.isTag = false) (hgap : ∀ s, m = .gap s → ∀ c ∈ s, isBlank c = true) :
    m.text = escape m.visible := by
  cases m with
  | opening | closing => cases hm
  | gap s => exact (escape_blank (hgap s rfl)).symm
  | word s => rfl

theorem flatMap_text_eq_escape (hms : ∀ m ∈ ms, m.isTag = false)
    (hgaps : ∀ s, .gap s ∈ ms → ∀ c ∈ s, isBlank c = true) :
    ms.flatMap text = escape (ms.flatMap visible) := by
  induction ms with
  | nil => rfl
  | cons m ms ih =>
    obtain ⟨hm, hms⟩ := List.forall_mem_cons.1 hms
    have hgap := text_eq_escape hm fun s heq => hgaps s (heq ▸ List.mem_cons_self)
    have hrest := ih hms fun s hs => hgaps s (List.mem_cons_of_mem m hs)
    rw [List.flatMap_cons, List.flatMap_cons, escape_append, hgap, hrest]

theorem Flat.noEnd (h : Flat ms) (hgaps : ∀ s, .gap s ∈ ms → ∀ c ∈ s, isBlank c = true) :
    '>' ∉ (ms.flatMap text).takeWhile (· ≠ '<') := by
  induction h with
  | nil => simp
  | @bare m ms hm _ ih =>
    have hwritten := text_eq_escape hm fun s heq => hgaps s (heq ▸ List.mem_cons_self)
    have hrest := ih fun s hs => hgaps s (List.mem_cons_of_mem m hs)
    have hlt : ∀ c ∈ escape m.visible, decide (c ≠ '<') = true := fun c hc =>
      decide_eq_true fun heq => notMem_escape (by decide) m.visible (heq ▸ hc)
    have hgt : '>' ∉ escape m.visible := notMem_escape (by decide) m.visible
    rw [List.flatMap_cons, hwritten, List.takeWhile_append_of_pos hlt, List.mem_append, not_or]
    exact ⟨hgt, hrest⟩
  | element => simp [text, openTag]

/-- Elements one after another are well-formed just when what they show has only characters that XML allows
and their labels are names. -/
theorem Flat.content_iff (h : Flat ms) (hgaps : ∀ s, .gap s ∈ ms → ∀ c ∈ s, isBlank c = true)
    (htame : ∀ l, .opening l ∈ ms → IsTame l) :
    Content (ms.flatMap text) ↔
      (∀ c ∈ ms.flatMap visible, IsAllowed c) ∧ ∀ l, .opening l ∈ ms → IsTagName l := by
  -- from the front: text is left off there, and a pair of tags with the text in it
  induction h with
  | nil => simp [Content.nil]
  | @bare m ms hm h ih =>
    have hwritten := text_eq_escape hm fun s heq => hgaps s (heq ▸ List.mem_cons_self)
    have hrest : ∀ s, .gap s ∈ ms → ∀ c ∈ s, isBlank c = true := fun s hs => hgaps s (List.mem_cons_of_mem m hs)
    have hopening (l : List Char) : .opening l ∈ m :: ms ↔ .opening l ∈ ms := by
      have hne : .opening l ≠ m := fun heq => Bool.noConfusion (heq ▸ hm : isTag (.opening l) = false)
      simp [hne]
    simp only [hopening] at htame ⊢
    rw [List.flatMap_cons, hwritten, content_escape_iff (h.noEnd hrest), ih hrest htame, List.flatMap_cons,
      List.forall_mem_append, and_assoc]
  | @element label body ms hbody _ h ih =>
    have hinner : ∀ s, .gap s ∈ body → ∀ c ∈ s, isBlank c = true := fun s hs => hgaps s (by simp [hs])
    have hrest : ∀ s, .gap s ∈ ms → ∀ c ∈ s, isBlank c = true := fun s hs => hgaps s (by simp [hs])
    have hopening (l : List Char) :
        .opening l ∈ .opening label :: (body ++ .closing label :: ms) ↔ l = label ∨ .opening l ∈ ms := by
      have hnone : .opening l ∉ body := fun hmem => Bool.noConfusion (hbody _ hmem)
      simp [hnone]
    have hwritten : (.opening label :: (body ++ .closing label :: ms)).flatMap text =
        openTag label ++ escape (body.flatMap visible) ++ closeTag label ++ ms.flatMap text := by
      simp [text, flatMap_text_eq_escape hbody hinner]
    have hvisible : (.opening label :: (body ++ .closing label :: ms)).flatMap visible =
        body.flatMap visible ++ ms.flatMap visible := by
      simp [visible]
    simp only [hopening, forall_eq_or_imp] at htame ⊢
    rw [hwritten, content_tags_iff htame.1, ih hrest htame.2, hvisible, List.forall_mem_append]
    tauto

/-- Of marks that are well-formed, those that show something and the labels hold only characters that XML
allows. -/
theorem isAllowed_of_flatMap_text (hms : ∀ s, .gap s ∈ ms → ∀ c ∈ s, isBlank c = true)
    (h : ∀ c ∈ ms.flatMap text, IsAllowed c) :
    (∀ c ∈ ms.flatMap visible, IsAllowed c) ∧ ∀ l, .opening l ∈ ms → ∀ c ∈ l, IsAllowed c := by
  simp only [List.forall_mem_flatMap] at h ⊢
  constructor
  · intro m hm
    cases hm' : m.isTag with
    | true =>
      cases m with
      | opening | closing => simp [visible]
      | gap | word => cases hm'
    | false =>
      have hwritten := text_eq_escape hm' fun s heq => hms s (heq ▸ hm)
      exact isAllowed_of_escape (hwritten ▸ h m hm)
  · intro l hl c hc
    exact h _ hl c (by simp [text, openTag, hc])

theorem visible_ofPieces (pieces : List (List Char × Token)) :
    (ofPieces pieces).flatMap visible = plain pieces := by
  rw [ofPieces, List.flatMap_assoc, plain]
  refine List.flatMap_congr fun x _ => ?_
  simp [visible]

theorem visible_ofRun (background : List Char) (run : List (List Char × Token)) :
    (ofRun background run).flatMap visible = plain run := by
  cases run with
  | nil => rfl
  | cons x rest =>
    obtain ⟨sep, t⟩ := x
    have hrest := visible_ofPieces rest
    rw [plain] at hrest ⊢
    cases hlabel : entity? background t <;> simp [ofRun, enclose, hlabel, visible, hrest]

theorem opening_mem_ofRun {background : List Char} {run : List (List Char × Token)}
    (halike : ∀ x ∈ run, ∀ y ∈ run, x.2.label = y.2.label) (l : List Char) :
    .opening l ∈ ofRun background run ↔ ∃ x ∈ run, entity? background x.2 = some l := by
  cases run with
  | nil => simp [ofRun]
  | cons x rest =>
    obtain ⟨sep, t⟩ := x
    have hbare : .opening l ∉ .word t.text :: ofPieces rest := by
      intro hmem
      obtain hword | hmem := List.mem_cons.1 hmem
      · cases hword
      · exact Bool.noConfusion (isTag_of_mem_ofPieces _ hmem)
    have hfirst : .opening l ∈ ofRun background ((sep, t) :: rest) ↔ entity? background t = some l := by
      cases hlabel : entity? background t with
      | none => simpa [ofRun, enclose, hlabel] using hbare
      | some label =>
        rw [List.mem_cons, not_or] at hbare
        simp [ofRun, enclose, hlabel, hbare.2, eq_comm]
    rw [hfirst]
    constructor
    · exact fun heq => ⟨_, List.mem_cons_self, heq⟩
    · rintro ⟨y, hy, heq⟩
      exact (entity?_congr (halike _ List.mem_cons_self y hy)).trans heq

theorem exists_of_gap_mem_ofRun {background : List Char} {run : List (List Char × Token)}
    (h : .gap s ∈ ofRun background run) : ∃ x ∈ run, x.1 = s := by
  have hpieces {rest : List (List Char × Token)} (h : .gap s ∈ ofPieces rest) : ∃ x ∈ rest, x.1 = s := by
    obtain ⟨x, hx, hgap⟩ := List.mem_flatMap.1 h
    exact ⟨x, hx, by simpa [eq_comm] using hgap⟩
  cases run with
  | nil => cases h
  | cons x rest =>
    obtain ⟨sep, t⟩ := x
    have hcases : s = sep ∨ .gap s ∈ ofPieces rest := by
      cases hlabel : entity? background t <;> simpa [ofRun, enclose, hlabel] using h
    obtain rfl | hrest := hcases
    · exact ⟨_, List.mem_cons_self, rfl⟩
    · obtain ⟨x, hx, heq⟩ := hpieces hrest
      exact ⟨x, List.mem_cons_of_mem _ hx, heq⟩

end Mark

/-- The marks of tokens, in runs. -/
def marks (background : List Char) (pieces : List (List Char × Token)) : List Mark :=
  (runsOf pieces).flatMap (Mark.ofRun background)

variable {background : List Char}

theorem inlineXml_eq_marks (background : List Char) (pieces : List (List Char × Token)) :
    inlineXml background none pieces = (marks background pieces).flatMap Mark.text :=
  inlineXml_of_maximalRuns (maximalRuns_runsOf pieces) fun _ _ _ _ _ => rfl

theorem visible_marks (background : List Char) (pieces : List (List Char × Token)) :
    (marks background pieces).flatMap Mark.visible = plain pieces := by
  have hruns : (runsOf pieces).flatten = pieces := (maximalRuns_runsOf pieces).flatten
  calc (marks background pieces).flatMap Mark.visible
      _ = (runsOf pieces).flatMap plain := by simp [marks, List.flatMap_assoc, Mark.visible_ofRun]
      _ = plain (runsOf pieces).flatten := by
        rw [← List.flatMap_id, plain, List.flatMap_assoc]
        rfl
      _ = plain pieces := by rw [hruns]

theorem opening_mem_marks {l : List Char} :
    .opening l ∈ marks background pieces ↔ ∃ x ∈ pieces, entity? background x.2 = some l := by
  have hruns := maximalRuns_runsOf pieces
  rw [marks, List.mem_flatMap]
  constructor
  · rintro ⟨run, hrun, hmem⟩
    obtain ⟨x, hx, heq⟩ := (Mark.opening_mem_ofRun (hruns.alike run hrun) l).1 hmem
    exact ⟨x, hruns.flatten ▸ List.mem_flatten.2 ⟨run, hrun, hx⟩, heq⟩
  · rintro ⟨x, hx, heq⟩
    rw [← hruns.flatten] at hx
    obtain ⟨run, hrun, hx⟩ := List.mem_flatten.1 hx
    exact ⟨run, hrun, (Mark.opening_mem_ofRun (hruns.alike run hrun) l).2 ⟨x, hx, heq⟩⟩

theorem blank_of_gap_mem_marks (hgaps : ∀ x ∈ pieces, ∀ c ∈ x.1, isBlank c = true) :
    ∀ s, .gap s ∈ marks background pieces → ∀ c ∈ s, isBlank c = true := by
  intro s hs
  obtain ⟨run, hrun, hmem⟩ := List.mem_flatMap.1 hs
  obtain ⟨x, hx, rfl⟩ := Mark.exists_of_gap_mem_ofRun hmem
  have hpiece : x ∈ pieces := (maximalRuns_runsOf pieces).flatten ▸ List.mem_flatten.2 ⟨run, hrun, hx⟩
  exact hgaps x hpiece

/-- Inline XML is well-formed just when what it shows has only characters that XML allows and the labels are
names, as far as these leave the tags as they are. -/
theorem content_inlineXml_iff (hgaps : ∀ x ∈ pieces, ∀ c ∈ x.1, isBlank c = true)
    (htame : ∀ x ∈ pieces, ∀ l ∈ entity? background x.2, IsTame l) :
    Content (inlineXml background none pieces) ↔
      (∀ c ∈ plain pieces, IsAllowed c) ∧ ∀ x ∈ pieces, ∀ l ∈ entity? background x.2, IsTagName l := by
  have hlabels {P : List Char → Prop} : (∀ l, .opening l ∈ marks background pieces → P l) ↔
      ∀ x ∈ pieces, ∀ l ∈ entity? background x.2, P l := by
    simp only [opening_mem_marks, forall_exists_index, and_imp]
    exact ⟨fun h x hx l hl => h l x hx hl, fun h l x hx hl => h x hx l hl⟩
  have hflat : Mark.Flat (marks background pieces) := flat_runs background _
  rw [inlineXml_eq_marks, hflat.content_iff (blank_of_gap_mem_marks hgaps) (hlabels.2 htame), visible_marks,
    hlabels]

theorem isAllowed_of_content_inlineXml (hgaps : ∀ x ∈ pieces, ∀ c ∈ x.1, isBlank c = true)
    (h : Content (inlineXml background none pieces)) :
    (∀ c ∈ plain pieces, IsAllowed c) ∧ ∀ x ∈ pieces, ∀ l ∈ entity? background x.2, ∀ c ∈ l, IsAllowed c := by
  have hallowed := h.isAllowed
  rw [inlineXml_eq_marks] at hallowed
  obtain ⟨hvisible, hlabels⟩ := Mark.isAllowed_of_flatMap_text (blank_of_gap_mem_marks hgaps) hallowed
  rw [visible_marks] at hvisible
  exact ⟨hvisible, fun x hx l hl => hlabels l (opening_mem_marks.2 ⟨x, hx, hl⟩)⟩

end

end LineTagger.Markup

namespace LineTagger.Gazetteer

open Xml

/-- Which annotations are well-formed. Numbered elements are when all that is visible, and the labels, are
characters that XML allows. Inline XML asks the same of all that is visible and of the labels it shows; and when
no such label ends a start tag or begins as a comment or an instruction does, it is well-formed just when the
labels it shows are names. -/
theorem classify_wellFormed (g : Gazetteer) (text : List Char) (preserve : Bool) :
    let visible := if preserve then strip text else [' '].intercalate ((Token.ofText text).map Token.text)
    (Content (g.classify text .xml preserve) ↔
      (∀ c ∈ visible, IsAllowed c) ∧ ∀ t ∈ g.label text, ∀ c ∈ t.label, IsAllowed c) ∧
    (Content (g.classify text .inlineXml preserve) →
      (∀ c ∈ visible, IsAllowed c) ∧ ∀ l ∈ g.shown text .inlineXml, ∀ c ∈ l, IsAllowed c) ∧
    ((∀ l ∈ g.shown text .inlineXml, Markup.IsTame l) →
      (Content (g.classify text .inlineXml preserve) ↔
        (∀ c ∈ visible, IsAllowed c) ∧ ∀ l ∈ g.shown text .inlineXml, IsTagName l)) := by
  intro visible
  have hunlabelled : (g.label text).map Token.unlabelled = (Token.ofText text).map Token.unlabelled :=
    map_labelTokens (fun _ _ => rfl) g _
  have hplain : Markup.plain (Markup.separated text preserve (g.label text)) = visible :=
    Markup.plain_separated hunlabelled preserve
  have hgaps : ∀ x ∈ Markup.separated text preserve (g.label text), ∀ c ∈ x.1, isBlank c = true :=
    fun x hx => (Markup.spaced_separated hunlabelled preserve x hx).1
  have htokens := Markup.map_snd_separated text preserve (g.label text)
  have hshown {P : List Char → Prop} : (∀ l ∈ g.shown text .inlineXml, P l) ↔
      ∀ t ∈ g.label text, ∀ l ∈ Markup.entity? g.background t, P l := by
    simp only [shown, List.mem_filterMap, forall_exists_index, and_imp]
    exact ⟨fun h t ht l hl => h l t ht hl, fun h l t ht hl => h t ht l hl⟩
  simp only [hshown]
  unfold classify Markup.render
  generalize Markup.separated text preserve (g.label text) = pieces at *
  rw [← hplain, ← htokens]
  simp only [List.forall_mem_map]
  exact ⟨Markup.content_xmlFrom_iff hgaps 0, Markup.isAllowed_of_content_inlineXml hgaps,
    Markup.content_inlineXml_iff hgaps⟩

/-- The labels of the bundled model are names, and signs of markup in a text do no harm. -/
theorem classify_wellFormed_default :
    let text := "<Alice> & ]]> Foo".toList
    (∀ l ∈ Model.defaultModel.shown text .inlineXml, Markup.IsTame l) ∧
      Content (Model.defaultModel.classify text .xml true) ∧
      Content (Model.defaultModel.classify text .inlineXml true) := by
  intro text
  obtain ⟨hxml, -, hinline⟩ := classify_wellFormed Model.defaultModel text true
  have hvisible : ∀ c ∈ strip text, IsAllowed c := by decide
  have hlabels : ∀ t ∈ Model.defaultModel.label text, ∀ c ∈ t.label, IsAllowed c := fun t ht =>
    forall_default (p := fun l => ∀ c ∈ l, IsAllowed c) (by decide) (of_mem_labelTokens ht).2
  have htame : ∀ l ∈ Model.defaultModel.shown text .inlineXml, Markup.IsTame l := fun l hl =>
    forall_default (p := Markup.IsTame) (by decide) (eq_or_mem_labels_of_mem_shown hl)
  have hnames : ∀ l ∈ Model.defaultModel.shown text .inlineXml, IsTagName l := fun l hl =>
    forall_default (p := IsTagName) (by decide) (eq_or_mem_labels_of_mem_shown hl)
  exact ⟨htame, hxml.2 ⟨hvisible, hlabels⟩, (hinline htame).2 ⟨hvisible, hnames⟩⟩

/-- A model with a label that is no name is loaded and writes it as a tag, and a control character of a text is
written as it is. -/
theorem classify_load_illFormed :
    let d : Folder := [(["m"], .file (Charset.Utf8.encode
      "\x7b\"entities\": \x7b\"A B\": [\"Alice\"]\x7d\x7d".toList))]
    ∃ g, (Model.load d "m" "").result = .ok g ∧ ¬Content (g.classify "Alice".toList .inlineXml true) ∧
      ¬Content (g.classify "\x01".toList .xml true) := by
  intro d
  have houtputs : (Model.load d "m" "").result.toOption.map
      (fun g => (g.classify "Alice".toList .inlineXml true, g.classify "\x01".toList .xml true)) =
      some ("<A B>Alice</A B>".toList, "<wi num=\"0\" entity=\"O\">\x01</wi>".toList) := by
    rw [Model.result_load (by decide), Path.ofString_m]
    decide +kernel +zetaReduce
  cases hload : (Model.load d "m" "").result with
  | error f =>
    rw [hload] at houtputs
    cases houtputs
  | ok g =>
    rw [hload] at houtputs
    obtain ⟨hinline, hxml⟩ := Prod.mk.inj (Option.some.inj houtputs)
    refine ⟨g, rfl, ?_, ?_⟩
    · intro h
      have htags : "<A B>Alice</A B>".toList = Markup.openTag "A B".toList ++ Markup.escape "Alice".toList ++
          Markup.closeTag "A B".toList ++ [] := by decide
      have hname : ¬IsTagName "A B".toList := by decide
      rw [hinline, htags, Markup.content_tags_iff (by decide)] at h
      exact hname h.1
    · intro h
      have hcontrol : ¬IsAllowed '\x01' := by decide
      exact hcontrol (h.isAllowed _ (hxml ▸ by decide))

end LineTagger.Gazetteer
