import LineTagger.Proofs.Annotation.Markup
import LineTagger.Proofs.Annotation.Spacing
import LineTagger.Proofs.Loading
import LineTagger.Session

/-!
An annotated text is one line when the text is one, unless a label that is shown as it stands breaks it:
attributes write their line feeds as references, slashes and tags do not.
-/

namespace LineTagger

namespace Gazetteer

variable {g : Gazetteer} {text : List Char}

/-- The labels of the tokens of a text that are shown as they stand. -/
def shown (g : Gazetteer) (text : List Char) : OutputFormat → List (List Char)
  | .slashTags => (g.label text).map Token.label
  | .xml => []
  | .inlineXml => (g.label text).filterMap (Markup.entity? g.background)

theorem mem_labels {l : List Char} : l ∈ g.labels ↔ ∃ ws, (ws, l) ∈ g.table := by
  simp [labels, List.mem_mergeSort, List.mem_eraseDups]

theorem mem_or_eq_of_mem_add {table : List (List (List Char) × List Char)} {k : List (List Char)} {l : List Char}
    {x : List (List Char) × List Char} (h : x ∈ add table k l) : x ∈ table ∨ x = (k, l) := by
  unfold add at h
  split at h
  · exact .inl h
  · exact (List.mem_append.1 h).imp_right List.mem_singleton.1

/-- The phrases of a table have the labels that list them and no others. -/
theorem label_mem_of_mem_tableOf {caseSensitive : Bool} {entities : Entities} :
    ∀ x ∈ tableOf caseSensitive entities, x.2 ∈ entities.map Prod.fst := by
  -- on the labels, and for each of them on its phrases
  refine List.foldlRecOn
    (motive := fun table : List (List (List Char) × List Char) => ∀ x ∈ table, x.2 ∈ entities.map Prod.fst)
    entities _ (List.forall_mem_nil _) fun table htable e he => ?_
  refine List.foldlRecOn
    (motive := fun table : List (List (List Char) × List Char) => ∀ x ∈ table, x.2 ∈ entities.map Prod.fst)
    e.2 _ htable fun table htable p _ x hx => ?_
  obtain hx | rfl := mem_or_eq_of_mem_add hx
  · exact htable x hx
  · exact List.mem_map_of_mem he

/-- The labels of the bundled model are those that its phrases are listed under. -/
theorem forall_default {p : List Char → Prop}
    (h : ∀ l ∈ Model.defaultModel.background :: (Model.toEntities Model.defaultPhrases).map Prod.fst, p l)
    {l : List Char} (hl : l = Model.defaultModel.background ∨ l ∈ Model.defaultModel.labels) : p l := by
  obtain rfl | hl := hl
  · exact h _ List.mem_cons_self
  · obtain ⟨ws, hws⟩ := mem_labels.1 hl
    exact h _ (List.mem_cons_of_mem _ (label_mem_of_mem_tableOf _ hws))

theorem mem_labels_of_longestMatch? {n k : Nat} {ts : List Token} {l : List Char}
    (h : g.longestMatch? n ts = some (k, l)) : l ∈ g.labels := by
  induction n with
  | zero => cases h
  | succ n ih =>
    rw [longestMatch?] at h
    split at h
    · next label hfind =>
      obtain ⟨-, rfl⟩ := Prod.mk.inj (Option.some.inj h)
      obtain ⟨before, after, htable, -⟩ := List.lookup_eq_some_iff.1 hfind
      exact mem_labels.2 ⟨_, htable ▸ List.mem_append_right before List.mem_cons_self⟩
    · exact ih h

/-- Labelling leaves the texts of tokens as they are, and labels them as background or with a label of
the table. -/
theorem of_mem_labelTokens {ts : List Token} {t : Token} (h : t ∈ g.labelTokens ts) :
    (∃ u ∈ ts, t.text = u.text) ∧ (t.label = g.background ∨ t.label ∈ g.labels) := by
  -- on the run of the tagger: a phrase that is found, or one token of the background
  fun_induction g.labelTokens ts with
  | case1 => cases h
  | case2 u ts n label hmatch ih =>
    obtain h | h := List.mem_append.1 h
    · obtain ⟨v, hv, rfl⟩ := List.mem_map.1 h
      have hmem : v ∈ u :: ts := List.cons_subset_cons u (List.take_subset n ts) hv
      exact ⟨⟨v, hmem, rfl⟩, .inr (mem_labels_of_longestMatch? hmatch)⟩
    · obtain ⟨⟨v, hv, htext⟩, hlabel⟩ := ih h
      exact ⟨⟨v, List.mem_cons_of_mem u (List.mem_of_mem_drop hv), htext⟩, hlabel⟩
  | case3 u ts hmatch ih =>
    obtain rfl | h := List.mem_cons.1 h
    · exact ⟨⟨u, List.mem_cons_self, rfl⟩, .inl rfl⟩
    · obtain ⟨⟨v, hv, htext⟩, hlabel⟩ := ih h
      exact ⟨⟨v, List.mem_cons_of_mem u hv, htext⟩, hlabel⟩

theorem lineFeed_notMem_separator (h : '\n' ∉ text) (preserve : Bool) (t u : Token) :
    '\n' ∉ Markup.separator text.toArray preserve t u := by
  unfold Markup.separator
  split
  · rw [slice_toArray]
    exact fun hmem => h (List.mem_of_mem_drop (List.mem_of_mem_take hmem))
  · decide

theorem clean_separated (h : '\n' ∉ text) (preserve : Bool) :
    Markup.Clean (Markup.separated text preserve (g.label text)) := by
  rintro ⟨sep, t⟩ hx
  obtain ⟨hsep, ht⟩ := List.of_mem_zip hx
  obtain ⟨⟨u, hu, htext⟩, -⟩ := of_mem_labelTokens ht
  refine ⟨?_, fun hmem => h (Token.mem_of_mem_scan hu (htext ▸ hmem))⟩
  obtain rfl | hsep := List.mem_cons.1 hsep
  · exact List.not_mem_nil
  · rw [← List.map_uncurry_zip_eq_zipWith] at hsep
    obtain ⟨⟨v, w⟩, -, rfl⟩ := List.mem_map.1 hsep
    exact lineFeed_notMem_separator h preserve v w

/-- An annotated text holds a line feed just when a label that is shown does. -/
theorem lineFeed_mem_classify (h : '\n' ∉ text) (format : OutputFormat) (preserve : Bool) :
    '\n' ∈ g.classify text format preserve ↔ ∃ l ∈ g.shown text format, '\n' ∈ l := by
  have hclean := clean_separated (g := g) h preserve
  have htokens := Markup.map_snd_separated text preserve (g.label text)
  unfold classify Markup.render
  generalize Markup.separated text preserve (g.label text) = pieces at hclean htokens ⊢
  cases format with
  | slashTags =>
    rw [Markup.lineFeed_mem_slashTags hclean, shown, ← htokens, List.map_map]
    constructor
    · rintro ⟨x, hx, hfeed⟩
      exact ⟨_, List.mem_map_of_mem hx, hfeed⟩
    · rintro ⟨l, hl, hfeed⟩
      obtain ⟨x, hx, rfl⟩ := List.mem_map.1 hl
      exact ⟨x, hx, hfeed⟩
  | xml => simpa [shown] using Markup.lineFeed_notMem_xml hclean
  | inlineXml =>
    rw [Markup.lineFeed_mem_inlineXml hclean, shown, ← htokens, List.filterMap_map]
    constructor
    · rintro (⟨l, hl, -⟩ | ⟨x, hx, l, hl, hfeed⟩)
      · cases hl
      · exact ⟨l, List.mem_filterMap.2 ⟨x, hx, hl⟩, hfeed⟩
    · rintro ⟨l, hl, hfeed⟩
      obtain ⟨x, hx, hl⟩ := List.mem_filterMap.1 hl
      exact .inr ⟨x, hx, l, hl, hfeed⟩

/-- A label that is shown is one of the table, or that of the background. -/
theorem eq_or_mem_labels_of_mem_shown {format : OutputFormat} {l : List Char}
    (h : l ∈ g.shown text format) : l = g.background ∨ l ∈ g.labels := by
  cases format with
  | slashTags =>
    obtain ⟨t, ht, rfl⟩ := List.mem_map.1 h
    exact (of_mem_labelTokens ht).2
  | xml => cases h
  | inlineXml =>
    obtain ⟨t, ht, hl⟩ := List.mem_filterMap.1 h
    unfold Markup.entity? at hl
    split at hl
    · cases hl
    · exact Option.some.inj hl ▸ (of_mem_labelTokens ht).2

/-- A line that is annotated is written as one line unless it shows a label that holds a line feed, and
as an attribute no label does. -/
theorem classify_oneLine (g : Gazetteer) {text : List Char} (h : '\n' ∉ text) (format : OutputFormat)
    (preserve : Value) :
    ('\n' ∈ g.classify text format preserve.isTrue ↔ ∃ l ∈ g.shown text format, '\n' ∈ l) ∧
    (∀ l ∈ g.shown text format, l = g.background ∨ l ∈ g.labels) ∧
    ('\n' ∉ g.classify text format preserve.isTrue →
      ∃ v line, g.classifier.annotate text (.format format) preserve = .ok v ∧
        Connection.lineText v = .ok line ∧ line.count '\n' = 1 ∧ line.getLast? = some '\n') := by
  refine ⟨lineFeed_mem_classify h format preserve.isTrue,
    fun l hl => eq_or_mem_labels_of_mem_shown hl, fun hfeed => ?_⟩
  obtain ⟨out, hout⟩ : ∃ out, out = g.classify text format preserve.isTrue := ⟨_, rfl⟩
  rw [← hout] at hfeed
  have hlast : out.getLast? ≠ some '\n' := fun hlast => hfeed (List.mem_of_getLast? hlast)
  have hline : Connection.lineText (.text (String.ofList out)) = .ok (out ++ ['\n']) := by
    simp only [Connection.lineText, Value.text?, String.toList_ofList, if_neg hlast]
  refine ⟨.text (String.ofList out), out ++ ['\n'], ?_, hline, ?_, List.getLast?_concat⟩
  · rw [hout]
    rfl
  · rw [List.count_append, List.count_eq_zero_of_not_mem hfeed]
    rfl

/-- The bundled model annotates a line in tags. -/
theorem classify_oneLine_default :
    let text := "Alice works at Foo".toList
    '\n' ∉ text ∧ '\n' ∉ Model.defaultModel.classify text .inlineXml true ∧
    ∃ v line, Model.defaultModel.classifier.annotate text (.format .inlineXml) (.bool true) = .ok v ∧
      Connection.lineText v = .ok line ∧ line.count '\n' = 1 ∧ line.getLast? = some '\n' := by
  intro text
  have htext : '\n' ∉ text := by decide
  obtain ⟨hfeed, hshown, hline⟩ := classify_oneLine Model.defaultModel htext .inlineXml (.bool true)
  have hout : '\n' ∉ Model.defaultModel.classify text .inlineXml true := by
    intro hmem
    obtain ⟨l, hl, hbreak⟩ := hfeed.1 hmem
    exact forall_default (p := ('\n' ∉ ·)) (by decide) (hshown l hl) hbreak
  exact ⟨htext, hout, hline hout⟩

/-- A model whose label holds a line feed is loaded, and a text of one line becomes one of two. -/
theorem classify_load_twoLines :
    let d : Folder := [(["m"], .file (Charset.Utf8.encode
      "\x7b\"entities\": \x7b\"A\\nB\": [\"Alice\"]\x7d\x7d".toList))]
    (Model.load d "m" "").result.toOption.map (fun g => g.classify "Alice".toList .slashTags true) =
      some "Alice/A\nB".toList := by
  intro d
  rw [Model.result_load (by decide), Path.ofString_m]
  decide +kernel +zetaReduce

end Gazetteer

end LineTagger
