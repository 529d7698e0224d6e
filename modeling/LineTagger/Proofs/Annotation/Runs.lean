import LineTagger.Proofs.Annotation.Spacing
import Mathlib.Data.List.SplitBy

/-!
Runs of tokens in inline XML. Neighbours with one label are a run, which is as long as can be; a run of an
entity is one element, a run of the background is bare, and what stands in front of a run is in no element.
-/

namespace LineTagger.Markup

/-- What inline XML is written of: the tags of elements, what stands in front of tokens, and tokens. -/
inductive Mark where
  | opening (label : List Char)
  | closing (label : List Char)
  | gap (s : List Char)
  | word (s : List Char)

namespace Mark

def text : Mark → List Char
  | .opening label => openTag label
  | .closing label => closeTag label
  | .gap s => s
  | .word s => escape s

def isTag : Mark → Bool
  | .opening _ | .closing _ => true
  | .gap _ | .word _ => false

/-- Elements one after another: each is closed, holds a token and holds no tag. -/
inductive Flat : List Mark → Prop where
  | nil : Flat []
  | bare {m : Mark} {ms : List Mark} (hm : m.isTag = false) (h : Flat ms) : Flat (m :: ms)
  | element {label : List Char} {body ms : List Mark} (hbody : ∀ m ∈ body, m.isTag = false)
      (hword : ∃ s, .word s ∈ body) (h : Flat ms) :
      Flat (.opening label :: (body ++ .closing label :: ms))

/-- Marks in the element of a label, if there is one. -/
def enclose : Option (List Char) → List Mark → List Mark
  | none, ms => ms
  | some label, ms => .opening label :: (ms ++ [.closing label])

/-- The marks of tokens, each behind what stands in front of it. -/
def ofPieces (pieces : List (List Char × Token)) : List Mark :=
  pieces.flatMap fun (sep, t) => [.gap sep, .word t.text]

/-- The marks of a run: only what stands in front of its first token is outside of its element. -/
def ofRun (background : List Char) : List (List Char × Token) → List Mark
  | [] => []
  | (sep, t) :: rest =>
    .gap sep :: enclose (entity? background t) (.word t.text :: ofPieces rest)

section

variable {ms ns : List Mark} {pieces run : List (List Char × Token)}

theorem isTag_of_mem_ofPieces : ∀ m ∈ ofPieces pieces, m.isTag = false := by
  intro m hm
  obtain ⟨⟨sep, t⟩, -, hm⟩ := List.mem_flatMap.1 hm
  obtain rfl | rfl := by simpa using hm
  all_goals rfl

theorem flat_append (hms : ∀ m ∈ ms, m.isTag = false) (hns : Flat ns) : Flat (ms ++ ns) := by
  induction ms with
  | nil => exact hns
  | cons m ms ih =>
    obtain ⟨hm, hrest⟩ := List.forall_mem_cons.1 hms
    exact .bare hm (ih hrest)

theorem flat_ofRun (background : List Char) (run : List (List Char × Token)) (hns : Flat ns) :
    Flat (ofRun background run ++ ns) := by
  cases run with
  | nil => exact hns
  | cons x rest =>
    obtain ⟨sep, t⟩ := x
    have hbody : ∀ m ∈ .word t.text :: ofPieces rest, m.isTag = false :=
      List.forall_mem_cons.2 ⟨rfl, isTag_of_mem_ofPieces⟩
    refine .bare rfl ?_
    cases entity? background t with
    | none => exact flat_append hbody hns
    | some label =>
      have helement : Flat (.opening label :: (.word t.text :: ofPieces rest ++ .closing label :: ns)) :=
        .element hbody ⟨t.text, List.mem_cons_self⟩ hns
      simpa [enclose] using helement

end

end Mark

/-- Pieces cut into runs of one label, each as long as can be. -/
structure MaximalRuns (pieces : List (List Char × Token))
    (runs : List (List (List Char × Token))) : Prop where
  flatten : runs.flatten = pieces
  nonempty : [] ∉ runs
  alike : ∀ run ∈ runs, ∀ x ∈ run, ∀ y ∈ run, x.2.label = y.2.label
  apart : runs.IsChain fun run next => ∀ x ∈ run, ∀ y ∈ next, x.2.label ≠ y.2.label

/-- Pieces cut wherever the label changes. -/
def runsOf (pieces : List (List Char × Token)) : List (List (List Char × Token)) :=
  pieces.splitBy fun x y => x.2.label = y.2.label

section

variable {pieces run : List (List Char × Token)} {runs : List (List (List Char × Token))}
  {background : List Char} {current : Option (List Char)}

theorem label_eq_of_isChain (h : run.IsChain fun x y => x.2.label = y.2.label) :
    ∀ x ∈ run, ∀ y ∈ run, x.2.label = y.2.label := by
  have hlabels : (run.map fun x => x.2.label).IsChain (· = ·) := (List.isChain_map _).2 h
  intro x hx y hy
  exact hlabels.pairwise.forall_of_forall (fun _ _ => rfl) (List.mem_map_of_mem hx)
    (List.mem_map_of_mem hy)

theorem maximalRuns_runsOf (pieces : List (List Char × Token)) : MaximalRuns pieces (runsOf pieces) := by
  have halike : ∀ run ∈ runsOf pieces, ∀ x ∈ run, ∀ y ∈ run, x.2.label = y.2.label := by
    intro run hrun
    have hchain := List.isChain_of_mem_splitBy hrun
    simp only [decide_eq_true_eq] at hchain
    exact label_eq_of_isChain hchain
  refine ⟨List.flatten_splitBy _ _, List.nil_notMem_splitBy _ _, halike, ?_⟩
  -- where two runs meet the labels differ, and within each of them they do not
  refine (List.isChain_getLast_head_splitBy _ pieces).imp_of_mem_imp ?_
  rintro run next hrun hnext ⟨hne, hne', hdiffer⟩ x hx y hy hsame
  rw [decide_eq_false_iff_not] at hdiffer
  apply hdiffer
  calc (run.getLast hne).2.label
      _ = x.2.label := halike run hrun _ (List.getLast_mem hne) x hx
      _ = y.2.label := hsame
      _ = (next.head hne').2.label := halike next hnext y hy _ (List.head_mem hne')

theorem MaximalRuns.eq_runsOf (h : MaximalRuns pieces runs) : runs = runsOf pieces := by
  have halike : ∀ run ∈ runs, run.IsChain fun x y => decide (x.2.label = y.2.label) = true := by
    intro run hrun
    have hpairs : run.Pairwise fun x y => decide (x.2.label = y.2.label) = true :=
      List.pairwise_of_forall_mem_list fun x hx y hy => decide_eq_true (h.alike run hrun x hx y hy)
    exact hpairs.isChain
  have hapart : runs.IsChain fun run next => ∃ hne hne',
      decide ((run.getLast hne).2.label = (next.head hne').2.label) = false := by
    refine h.apart.imp_of_mem_imp fun run next hrun hnext hdiffer => ?_
    have hne : run ≠ [] := fun hnil => h.nonempty (hnil ▸ hrun)
    have hne' : next ≠ [] := fun hnil => h.nonempty (hnil ▸ hnext)
    exact ⟨hne, hne', decide_eq_false (hdiffer _ (List.getLast_mem hne) _ (List.head_mem hne'))⟩
  exact (List.splitBy_eq_iff.2 ⟨h.flatten.symm, h.nonempty, halike, hapart⟩).symm

/-- There is one way to cut pieces into such runs. -/
theorem maximalRuns_iff : MaximalRuns pieces runs ↔ runs = runsOf pieces :=
  ⟨MaximalRuns.eq_runsOf, fun h => h ▸ maximalRuns_runsOf pieces⟩

theorem MaximalRuns.tail (h : MaximalRuns pieces (run :: runs)) : MaximalRuns runs.flatten runs :=
  ⟨rfl, fun hmem => h.nonempty (List.mem_cons_of_mem run hmem),
    fun next hnext => h.alike next (List.mem_cons_of_mem run hnext), h.apart.tail⟩

/-- The start tag of an element, if there is one. -/
def starting : Option (List Char) → List Char
  | none => []
  | some label => openTag label

theorem text_enclose (label : Option (List Char)) (ms : List Mark) :
    (Mark.enclose label ms).flatMap Mark.text =
      starting label ++ ms.flatMap Mark.text ++ closing label := by
  cases label <;> simp [Mark.enclose, starting, closing, Mark.text]

theorem entity?_congr {t u : Token} (h : t.label = u.label) :
    entity? background t = entity? background u := by
  unfold entity?
  rw [h]

/-- The tokens of the element that is open go on in it. -/
theorem inlineXml_append (h : ∀ x ∈ pieces, entity? background x.2 = current)
    (rest : List (List Char × Token)) :
    inlineXml background current (pieces ++ rest) =
      (Mark.ofPieces pieces).flatMap Mark.text ++ inlineXml background current rest := by
  induction pieces with
  | nil => rfl
  | cons x pieces ih =>
    obtain ⟨hx, hpieces⟩ := List.forall_mem_cons.1 h
    rw [List.cons_append, inlineXml, if_pos hx, hx, ih hpieces]
    simp [Mark.ofPieces, Mark.text]

/-- A token of another element than the one that is open closes this and opens its own. -/
theorem inlineXml_cons {sep : List Char} {t : Token} (h : entity? background t = current → current = none)
    (rest : List (List Char × Token)) :
    inlineXml background current ((sep, t) :: rest) = closing current ++ sep ++
      starting (entity? background t) ++ escape t.text ++
        inlineXml background (entity? background t) rest := by
  rw [inlineXml]
  by_cases hsame : entity? background t = current
  · rw [if_pos hsame, hsame, h hsame]
    simp [closing, starting]
  · rw [if_neg hsame]
    cases entity? background t <;> simp [starting]

/-- What is written of runs, the first of which is not of the element that is open. -/
theorem inlineXml_of_maximalRuns (h : MaximalRuns pieces runs)
    (hfirst : ∀ run ∈ runs.head?, ∀ x ∈ run, entity? background x.2 = current → current = none) :
    inlineXml background current pieces =
      closing current ++ (runs.flatMap (Mark.ofRun background)).flatMap Mark.text := by
  -- on the runs; the one before is closed where the next one starts
  induction runs generalizing pieces current with
  | nil =>
    rw [← h.flatten]
    simp [inlineXml]
  | cons run runs ih =>
    obtain ⟨⟨sep, t⟩, rest, rfl⟩ : ∃ x rest, run = x :: rest :=
      List.exists_cons_of_ne_nil fun hnil => h.nonempty (hnil ▸ List.mem_cons_self)
    have hsame : ∀ x ∈ rest, entity? background x.2 = entity? background t := fun x hx =>
      entity?_congr (h.alike _ List.mem_cons_self x (List.mem_cons_of_mem _ hx) _ List.mem_cons_self)
    have hnext : ∀ next ∈ runs.head?, ∀ x ∈ next,
        entity? background x.2 = entity? background t → entity? background t = none := by
      intro next hnext x hx
      have hdiffer := (List.isChain_cons.1 h.apart).1 next hnext _ List.mem_cons_self x hx
      unfold entity?
      grind
    have hcons := hfirst _ rfl _ List.mem_cons_self
    rw [← h.flatten, List.flatten_cons, List.cons_append, inlineXml_cons hcons, inlineXml_append hsame,
      ih h.tail hnext, List.flatMap_cons, List.flatMap_append, Mark.ofRun, List.flatMap_cons, text_enclose,
      List.flatMap_cons]
    simp [Mark.text]

theorem flat_runs (background : List Char) (runs : List (List (List Char × Token))) :
    Mark.Flat (runs.flatMap (Mark.ofRun background)) := by
  induction runs with
  | nil => exact .nil
  | cons run runs ih => exact Mark.flat_ofRun background run ih

end

end LineTagger.Markup
