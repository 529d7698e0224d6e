import LineTagger.Proofs.Annotation.Joining
import LineTagger.Proofs.Annotation.LowerCase

/-!
Texts in lower case and gazetteers that fold case. Small letters are cut into tokens as their capitals are;
but a gazetteer folds each token by itself, so it knows a text and its small letters for the same only where
no capital looks beyond its token.
-/

namespace LineTagger

namespace Token

section

variable {s u v w : List Char} {pos : Nat} {ts : List Token}

theorem exists_kind_eq_of_mem (h : u.map kind = s.map kind) {d : Char} (hd : d ∈ u) :
    ∃ c ∈ s, kind d = kind c := by
  obtain ⟨c, hc, hkind⟩ := List.mem_map.1 (h ▸ List.mem_map_of_mem (f := kind) hd)
  exact ⟨c, hc, hkind.symm⟩

theorem IsRun.of_kind (hv : IsRun v) (h : w.map kind = v.map kind) : IsRun w := by
  obtain ⟨hne, hword⟩ := hv
  refine ⟨?_, fun d hd => ?_⟩
  · rintro rfl
    exact hne (List.map_eq_nil_iff.1 h.symm)
  · obtain ⟨c, hc, hkind⟩ := exists_kind_eq_of_mem h hd
    exact (kind_eq_iff.1 hkind).1.trans (hword c hc)

theorem IsWordText.of_kind (hv : IsWordText v) (h : w.map kind = v.map kind) : IsWordText w := by
  induction hv generalizing w with
  | run hv => exact .run (hv.of_kind h)
  | @join v u c hv hc _ ih =>
    rw [List.map_append, List.map_cons] at h
    obtain ⟨w, rest, rfl, hw, hrest⟩ := List.map_eq_append_iff.1 h
    obtain ⟨d, x, rfl, hd, hx⟩ := List.map_eq_cons_iff.1 hrest
    obtain ⟨-, -, hconnector⟩ := kind_eq_iff.1 hd
    exact .join (hv.of_kind hw) (hconnector.trans hc) (ih hx)

theorem startsWord_of_kind (h : u.map kind = s.map kind) : startsWord u = startsWord s := by
  cases s with
  | nil => rw [List.map_eq_nil_iff.1 h]
  | cons c s =>
    obtain ⟨d, u, rfl, hd, -⟩ := List.map_eq_cons_iff.1 h
    exact (kind_eq_iff.1 hd).1

theorem EndsWord.of_kind (hs : EndsWord s) (h : u.map kind = s.map kind) : EndsWord u := by
  cases s with
  | nil =>
    rw [List.map_eq_nil_iff.1 h]
    trivial
  | cons c s =>
    obtain ⟨hword, hconnector⟩ := hs
    obtain ⟨d, u, rfl, hd, hu⟩ := List.map_eq_cons_iff.1 h
    obtain ⟨hdword, -, hdconnector⟩ := kind_eq_iff.1 hd
    refine ⟨hdword.trans hword, fun hjoins => ?_⟩
    rw [startsWord_of_kind hu]
    exact hconnector (hdconnector.symm.trans hjoins)

/-- A token as it stands in the lower case of its text. -/
def lowered (text : List Char) (t : Token) : Token :=
  { t with text := lowerWithin (text.take t.start.toNat).reverse t.text (text.drop t.stop.toNat) }

theorem lowered_at (before w s : List Char) :
    lowered (before ++ (w ++ s)) { text := w, start := before.length, stop := before.length + w.length } =
      { text := lowerWithin before.reverse w s, start := before.length
        stop := before.length + w.length } := by
  have hdrop : (before ++ (w ++ s)).drop ((before.length : Int) + w.length).toNat = s := by
    rw [← List.append_assoc]
    exact List.drop_left' (by simp; omega)
  rw [lowered, hdrop, Int.toNat_natCast, List.take_left]

/-- Small letters are read as the tokens that their capitals are read as. -/
theorem Tiles.lowered (h : Tiles pos s ts) (hdot : 'İ' ∉ s) (before : List Char)
    (hpos : before.length = pos) :
    Tiles pos (lowerWithin before.reverse s []) (ts.map (Token.lowered (before ++ s))) := by
  induction h generalizing before with
  | nil => exact .nil
  | @blank pos c s ts hc _ ih =>
    obtain ⟨hne, hs⟩ := List.ne_and_not_mem_of_not_mem_cons hdot
    obtain ⟨d, hd, hkind⟩ := lowerWithin_singleton hne.symm before.reverse s
    have hrest := ih hs (before ++ [c]) (by simp [hpos])
    rw [List.append_cons, ← List.singleton_append, lowerWithin_reverse_append, hd]
    obtain ⟨-, hdblank, -⟩ := kind_eq_iff.1 hkind
    exact .blank (hdblank.trans hc) hrest
  | @mark pos c s ts hword hmark _ ih =>
    subst hpos
    obtain ⟨hne, hs⟩ := List.ne_and_not_mem_of_not_mem_cons hdot
    obtain ⟨d, hd, hkind⟩ := lowerWithin_singleton hne.symm before.reverse s
    have hrest := ih hs (before ++ [c]) (by simp)
    have htoken := lowered_at before [c] s
    rw [List.append_assoc] at hrest
    rw [hd, List.length_singleton, Int.natCast_one] at htoken
    rw [← List.singleton_append, lowerWithin_reverse_append, hd, List.map_cons, htoken]
    obtain ⟨hdword, hdblank, -⟩ := kind_eq_iff.1 hkind
    exact .mark (hdword.trans hword) (hdblank.trans hmark) hrest
  | @word pos w s ts hw hends _ ih =>
    subst hpos
    rw [List.mem_append, not_or] at hdot
    obtain ⟨hwdot, hsdot⟩ := hdot
    have hrest := ih hsdot (before ++ w) (by simp)
    have hkind := map_kind_lowerWithin hwdot before.reverse s
    have hlength : (lowerWithin before.reverse w s).length = w.length := by
      simpa using congrArg List.length hkind
    rw [List.append_assoc, ← hlength] at hrest
    rw [lowerWithin_reverse_append, List.map_cons, lowered_at, ← hlength]
    exact .word (hw.of_kind hkind) (hends.of_kind (map_kind_lowerWithin hsdot _ _)) hrest

theorem ofText_lower {text : List Char} (hdot : 'İ' ∉ text) :
    ofText (lower text) = (ofText text).map (lowered text) := by
  rw [lower_eq]
  exact ((tiles_scan 0 text).lowered hdot [] rfl).eq_scan.symm

theorem Tiles.exists_mem (h : Tiles pos s ts) {c : Char} (hc : c ∈ s) (hsolid : isBlank c = false) :
    ∃ t ∈ ts, c ∈ t.text := by
  induction h with
  | nil => cases hc
  | blank hd _ ih =>
    obtain rfl | hc := List.mem_cons.1 hc
    · rw [hd] at hsolid
      cases hsolid
    · exact ih hc
  | mark _ _ _ ih =>
    obtain rfl | hc := List.mem_cons.1 hc
    · exact ⟨_, List.mem_cons_self, List.mem_singleton_self c⟩
    · obtain ⟨t, ht, hct⟩ := ih hc
      exact ⟨t, List.mem_cons_of_mem _ ht, hct⟩
  | word _ _ _ ih =>
    obtain hc | hc := List.mem_append.1 hc
    · exact ⟨_, List.mem_cons_self, hc⟩
    · obtain ⟨t, ht, hct⟩ := ih hc
      exact ⟨t, List.mem_cons_of_mem _ ht, hct⟩

theorem isBlank_dot : isBlank 'İ' = false := by decide

/-- No token holds both small letters of the dotted capital, of which the second is a mark. -/
theorem not_mem_dot_of_shape (h : IsMark w ∨ IsWordText w) (hi : 'i' ∈ w) : '\u0307' ∉ w := by
  intro hdot
  obtain ⟨c, rfl, -, -⟩ | hw := h
  · rw [← List.mem_singleton.1 hi] at hdot
    exact absurd hdot (by decide)
  · have hneither : ¬(isWord '\u0307' = true ∨ isConnector '\u0307' = true) := by decide
    exact hneither (hw.isWord_or_isConnector hdot)

variable {text : List Char} {t : Token}

/-- The tokens of a text in lower case are in lower case, each by itself. -/
theorem lower_text_of_mem_lower (ht : t ∈ ofText (lower text)) : lower t.text = t.text := by
  rw [lower_eq]
  refine lowerWithin_of_isLow (fun c hc => ?_) [] []
  have hmem : c ∈ lower text := mem_of_mem_scan ht hc
  rw [lower_eq] at hmem
  exact isLow_of_mem_lowerWithin hmem

/-- What stands on either side of a character of a token, in the token and around it. -/
theorem around_of_mem (ht : t ∈ ofText text) {i : Nat} (hi : i < t.text.length) :
    (t.text.take i).reverse ++ (text.take t.start.toNat).reverse = (text.take (t.start.toNat + i)).reverse ∧
      t.text.drop (i + 1) ++ text.drop t.stop.toNat = text.drop (t.start.toNat + i + 1) := by
  have hspans := spans_ofText text
  obtain ⟨n, w, rfl, -, hdrop⟩ := (hspans.fits t ht).exists_eq (hspans.start_le t ht)
  have hstop : ((n : Int) + w.length).toNat = n + w.length := by omega
  simp only [Int.toNat_natCast, hstop] at hi ⊢
  constructor
  · rw [List.take_add, hdrop, List.take_append_of_le_length (Nat.le_of_lt hi), List.reverse_append]
  · rw [Nat.add_assoc, ← List.drop_drop (i := i + 1), hdrop, List.drop_append_of_le_length hi]

/-- Whether each capital sigma of a token ends a word in the text just when it does so in the token. -/
def KeepsSigmas (text : List Char) (t : Token) : Prop := ∀ i < t.text.length, t.text[i]? = some 'Σ' →
  sigmaIsFinal (text.take (t.start.toNat + i)).reverse (text.drop (t.start.toNat + i + 1)) =
    sigmaIsFinal (t.text.take i).reverse (t.text.drop (i + 1))

instance (text : List Char) (t : Token) : Decidable (t.KeepsSigmas text) :=
  inferInstanceAs (Decidable (∀ i < t.text.length, _))

theorem text_lowered_iff (ht : t ∈ ofText text) :
    (lowered text t).text = lower t.text ↔ KeepsSigmas text t := by
  rw [lower_eq, lowered, lowerWithin_eq_iff]
  refine forall₂_congr fun i hi => ?_
  obtain ⟨hbefore, hafter⟩ := around_of_mem ht hi
  rw [hbefore, hafter, List.append_nil, List.append_nil]

end

end Token

/-- A text whose small letters are those of its tokens: it has no dotted capital, which becomes a letter and a
mark, and every capital sigma is the same small letter in the text as in its token. -/
structure LowersByToken (text : List Char) : Prop where
  noDot : 'İ' ∉ text
  sigma : ∀ t ∈ Token.ofText text, t.KeepsSigmas text

instance (text : List Char) : Decidable (LowersByToken text) :=
  decidable_of_iff ('İ' ∉ text ∧ ∀ t ∈ Token.ofText text, t.KeepsSigmas text)
    ⟨fun h => ⟨h.1, h.2⟩, fun h => ⟨h.noDot, h.sigma⟩⟩

namespace Gazetteer

theorem phraseKey_eq (text : List Char) :
    phraseKey false text = (Token.ofText text).map fun t => lower t.text := List.map_map

theorem noDot_of_phraseKey_lower {text : List Char}
    (h : phraseKey false (lower text) = phraseKey false text) : 'İ' ∉ text := by
  intro hmem
  obtain ⟨t, ht, hdot⟩ := (Token.tiles_scan 0 text).exists_mem hmem Token.isBlank_dot
  have hkey : lower t.text ∈ phraseKey false (lower text) := by
    rw [h, phraseKey_eq]
    exact List.mem_map_of_mem (f := fun t => lower t.text) ht
  rw [phraseKey_eq] at hkey
  obtain ⟨u, hu, htext⟩ := List.mem_map.1 hkey
  rw [Token.lower_text_of_mem_lower hu] at htext
  obtain ⟨hi, hmark⟩ := mem_lowerWithin_of_dot hdot [] []
  rw [← lower_eq, ← htext] at hi hmark
  exact Token.not_mem_dot_of_shape (Token.shape_of_mem_ofText hu) hi hmark

theorem phraseKey_lower_iff (text : List Char) :
    phraseKey false (lower text) = phraseKey false text ↔ LowersByToken text := by
  have hkeys (hdot : 'İ' ∉ text) : phraseKey false (lower text) = phraseKey false text ↔
      ∀ t ∈ Token.ofText text, t.KeepsSigmas text := by
    have hlowered := Token.ofText_lower hdot
    rw [phraseKey_eq, phraseKey_eq, hlowered, List.map_map, List.map_inj_left]
    refine forall₂_congr fun t ht => ?_
    have hlow := Token.lower_text_of_mem_lower (hlowered ▸ List.mem_map_of_mem (f := Token.lowered text) ht)
    rw [Function.comp_apply, hlow, Token.text_lowered_iff ht]
  constructor
  · intro h
    have hdot := noDot_of_phraseKey_lower h
    exact ⟨hdot, (hkeys hdot).1 h⟩
  · rintro ⟨hdot, h⟩
    exact (hkeys hdot).2 h

section

variable {g : Gazetteer} {ts us : List Token}

theorem map_label_withLabel (l : List Char) (ts : List Token) :
    (ts.map (·.withLabel l)).map Token.label = List.replicate ts.length l := by
  rw [List.map_map]
  exact List.map_const'

/-- Tokens that compare alike get the same labels. -/
theorem labels_congr (h : ts.map g.fold = us.map g.fold) :
    (g.labelTokens ts).map Token.label = (g.labelTokens us).map Token.label := by
  have hmatches {ts us : List Token} (h : ts.map g.fold = us.map g.fold) :
      g.longestMatch? (ts.take g.longest).length ts = g.longestMatch? (us.take g.longest).length us := by
    have hlength := congrArg List.length h
    rw [List.length_map, List.length_map] at hlength
    rw [longestMatch?_congr h, List.length_take, List.length_take, hlength]
  fun_induction g.labelTokens ts generalizing us with
  | case1 => rw [List.map_eq_nil_iff.1 h.symm, labelTokens]
  | case2 t ts n l hmatch ih =>
    obtain ⟨u, us, rfl, -, hrest⟩ := List.map_eq_cons_iff.1 h.symm
    have hlength := congrArg List.length hrest
    rw [List.length_map, List.length_map] at hlength
    have hdrop : (ts.drop n).map g.fold = (us.drop n).map g.fold := by
      rw [List.map_drop, List.map_drop, hrest]
    rw [hmatches h] at hmatch
    rw [labelTokens, hmatch]
    simp only [List.map_append, map_label_withLabel, List.length_cons, List.length_take, hlength, ih hdrop]
  | case3 t ts hmatch ih =>
    obtain ⟨u, us, rfl, -, hrest⟩ := List.map_eq_cons_iff.1 h.symm
    rw [hmatches h] at hmatch
    rw [labelTokens, hmatch]
    simp only [List.map_cons, ih hrest.symm]
    rfl

theorem labelOf?_singleton {w : List Char} (hw : Token.IsMark w ∨ Token.IsWordText w) (l : List Char) :
    labelOf? false [(l, [w])] us = if us.map (fun t => lower t.text) = [lower w] then some l else none := by
  have hkey : phraseKey false w = [lower w] := by
    rw [phraseKey_eq, Token.ofText_of_shape hw]
    rfl
  have hus : key false (us.map Token.text) = us.map fun t => lower t.text := List.map_map
  rw [labelOf?, hus, firstLabel?]
  by_cases hsame : us.map (fun t => lower t.text) = [lower w]
  · simp [hsame, lists, hkey]
  · simp [hsame, lists, hkey, Ne.symm hsame]

/-- A gazetteer of one phrase of one token gives its label to that token, and to no other. -/
theorem labelTokens_singleton {w l background : List Char} {name : Value}
    (hw : Token.IsMark w ∨ Token.IsWordText w) (ts : List Token) :
    (ofEntities [(l, [w])] background false name).labelTokens ts =
      ts.map fun t => t.withLabel (if lower t.text = lower w then l else background) := by
  refine (LeftmostLongest.eq_labelTokens rfl ?_).symm
  induction ts with
  | nil => exact .nil
  | cons t ts ih =>
    rw [List.map_cons]
    by_cases ht : lower t.text = lower w
    · have hlabel : labelOf? false [(l, [w])] [t] = some l := by simp [labelOf?_singleton hw, ht]
      rw [if_pos ht]
      refine .phrase hlabel (fun ws _ hlonger => ?_) ih
      rw [labelOf?_singleton hw, if_neg]
      intro hws
      have hlength := congrArg List.length hws
      rw [List.length_map, List.length_singleton] at hlength
      rw [List.length_singleton] at hlonger
      omega
    · rw [if_neg ht]
      refine .background (fun ws hprefix => ?_) ih
      rw [labelOf?_singleton hw, if_neg]
      intro hws
      obtain ⟨u, rest, rfl, hu, -⟩ := List.map_eq_cons_iff.1 hws
      rw [(List.cons_prefix_cons.1 hprefix).1] at hu
      exact ht hu

end

/-- All gazetteers that fold case give a text and its small letters the same labels exactly where the small
letters of the text are those of its tokens. -/
theorem label_lower_iff (text : List Char) :
    (∀ (entities : Entities) (background : List Char) (name : Value),
      let g := ofEntities entities background false name
      (g.label (lower text)).map Token.label = (g.label text).map Token.label) ↔ LowersByToken text := by
  rw [← phraseKey_lower_iff, phraseKey_eq, phraseKey_eq]
  constructor
  · intro h
    have hmarked {w : List Char} (hw : Token.IsMark w ∨ Token.IsWordText w) :
        (Token.ofText (lower text)).map (fun t => if lower t.text = lower w then ['X'] else ['O']) =
          (Token.ofText text).map fun t => if lower t.text = lower w then ['X'] else ['O'] := by
      have hlabels := h [(['X'], [w])] ['O'] .null
      simp only [label, labelTokens_singleton hw, List.map_map] at hlabels
      exact hlabels
    have hlength := congrArg List.length (h [] [] .null)
    rw [List.length_map, List.length_map, label, label, length_labelTokens, length_labelTokens] at hlength
    refine List.ext_getElem (by rwa [List.length_map, List.length_map]) fun i hi hi' => ?_
    rw [List.length_map] at hi'
    -- the phrase is the token at this place of the text, so the one of the small letters is it too
    have hplace := congrArg (·[i]?) (hmarked (Token.shape_of_mem_ofText (List.getElem_mem hi')))
    rw [List.getElem_map, List.getElem_map]
    by_contra hne
    simp [hlength, hi', hne] at hplace
  · intro h entities background name
    exact labels_congr h

/-- The sigmas end words in the text and in their tokens, or neither. -/
example : LowersByToken "Ο ΣΟΦΟΣ, Ada's".toList := by decide +kernel

/-- The small letters of the dotted capital are a letter and a mark, which end its token; and a sigma that
letters follow behind a period ends its token but no word of the text. -/
theorem label_lower_ne :
    let g := ofEntities [("PLACE".toList, ["İzmir".toList]), ("NAME".toList, ["ΑΣ".toList])] ['O'] false .null
    (g.label (lower "İzmir".toList)).map Token.label ≠ (g.label "İzmir".toList).map Token.label ∧
    (g.label (lower "ΑΣ.Β".toList)).map Token.label ≠ (g.label "ΑΣ.Β".toList).map Token.label := by
  decide +kernel

end Gazetteer

end LineTagger
