import LineTagger.Token
import LineTagger.Text.Slice

/-!
The grammar of tokens. A token is a word, or a mark that is neither a word character nor white space;
a word is runs of word characters with single connectors between them, and is as long as the text
allows. There is one list of tokens of this kind that leaves nothing but white space of a text.
-/

namespace LineTagger

theorem Ranges.exists_mem_of_has {rs : Ranges} {n : Nat} (h : rs.has n = true) :
    ∃ r ∈ rs, r.1 ≤ n ∧ n ≤ r.2 := by
  induction rs with
  | nil => cases h
  | cons r rest ih =>
    obtain ⟨lo, hi⟩ := r
    unfold has at h
    by_cases hlo : n < lo
    · simp [hlo] at h
    by_cases hhi : n ≤ hi
    · exact ⟨(lo, hi), List.mem_cons_self, by omega, hhi⟩
    · simp only [hlo, hhi, decide_false, Bool.false_or, if_false] at h
      obtain ⟨r, hr, hn⟩ := ih h
      exact ⟨r, List.mem_cons_of_mem _ hr, hn⟩

theorem isWord_of_isBlank {c : Char} (h : isBlank c = true) : isWord c = false := by
  -- white space is few characters, so each of them is looked up
  have hblank : ∀ r ∈ blankRanges, ∀ n ∈ List.range' r.1 (r.2 + 1 - r.1), wordRanges.has n = false := by
    decide +kernel
  obtain ⟨r, hr, hlo, hhi⟩ := Ranges.exists_mem_of_has h
  have hn : c.toNat ∈ List.range' r.1 (r.2 + 1 - r.1) := by
    rw [List.mem_range'_1]
    omega
  exact hblank r hr c.toNat hn

namespace Token

/-- Word characters, at least one. -/
def IsRun (w : List Char) : Prop := w ≠ [] ∧ ∀ c ∈ w, isWord c = true

/-- A run, and any number of times a connector and another run. -/
inductive IsWordText : List Char → Prop where
  | run {w : List Char} (hw : IsRun w) : IsWordText w
  | join {w v : List Char} {c : Char} (hw : IsRun w) (hc : isConnector c = true)
      (hv : IsWordText v) : IsWordText (w ++ c :: v)

/-- A character that is a token of its own. -/
def IsMark (w : List Char) : Prop := ∃ c, w = [c] ∧ isWord c = false ∧ isBlank c = false

/-- What does not continue a word: no word character comes first, and no connector that a word
character follows. -/
def EndsWord : List Char → Prop
  | [] => True
  | c :: rest => isWord c = false ∧ (isConnector c = true → startsWord rest = false)

section

variable {c : Char} {w s : List Char}

theorem IsWordText.exists_cons (h : IsWordText w) : ∃ c v, w = c :: v ∧ isWord c = true := by
  have hrun {w : List Char} (hw : IsRun w) : ∃ c v, w = c :: v ∧ isWord c = true := by
    obtain ⟨hne, hall⟩ := hw
    obtain ⟨c, v, rfl⟩ := List.exists_cons_of_ne_nil hne
    exact ⟨c, v, rfl, hall c List.mem_cons_self⟩
  cases h with
  | run hw => exact hrun hw
  | @join w v d hw =>
    obtain ⟨c, u, rfl, hc⟩ := hrun hw
    exact ⟨c, u ++ d :: v, rfl, hc⟩

theorem IsWordText.cons (hc : isWord c = true) (h : IsWordText w) : IsWordText (c :: w) := by
  have hrun {w : List Char} (hw : IsRun w) : IsRun (c :: w) :=
    ⟨List.cons_ne_nil c w, List.forall_mem_cons.2 ⟨hc, hw.2⟩⟩
  cases h with
  | run hw => exact .run (hrun hw)
  | join hw hd hv => exact .join (hrun hw) hd hv

theorem isRun_singleton (hc : isWord c = true) : IsRun [c] :=
  ⟨List.cons_ne_nil c [], by simpa using hc⟩

theorem extent_eq (n : Nat) (s : List Char) : extent n s = n + extent 0 s := by
  induction s generalizing n with
  | nil => rfl
  | cons c rest ih =>
    unfold extent
    split
    · rw [ih (n + 1), ih (0 + 1)]
      omega
    · rfl

theorem extent_le_length (s : List Char) : extent 0 s ≤ s.length := by
  induction s with
  | nil => exact Nat.le_refl 0
  | cons c rest ih =>
    unfold extent
    split
    · rw [extent_eq, List.length_cons]
      omega
    · exact Nat.zero_le _

theorem extent_cons (h : (isWord c || (isConnector c && startsWord s)) = true) :
    extent 0 (c :: s) = extent 0 s + 1 := by
  rw [extent, if_pos h, extent_eq]
  omega

theorem extent_run (hw : ∀ c ∈ w, isWord c = true) (s : List Char) :
    extent 0 (w ++ s) = w.length + extent 0 s := by
  induction w with
  | nil => simp
  | cons c w ih =>
    obtain ⟨hc, hrest⟩ := List.forall_mem_cons.1 hw
    rw [List.cons_append, extent_cons (by simp [hc]), ih hrest, List.length_cons]
    omega

/-- A word is counted to its end, and so is what continues it. -/
theorem IsWordText.extent_append (h : IsWordText w) (s : List Char) :
    extent 0 (w ++ s) = w.length + extent 0 s := by
  induction h with
  | run hw => exact extent_run hw.2 s
  | @join w v c hw hc hv ih =>
    have hstarts : startsWord (v ++ s) = true := by
      obtain ⟨d, u, rfl, hd⟩ := hv.exists_cons
      exact hd
    rw [List.append_assoc, List.cons_append, extent_run hw.2, extent_cons (by simp [hc, hstarts]), ih,
      List.length_append, List.length_cons]
    omega

theorem extent_of_endsWord (h : EndsWord s) : extent 0 s = 0 := by
  cases s with
  | nil => rfl
  | cons c rest =>
    obtain ⟨hc, hconnector⟩ := h
    rw [extent, if_neg]
    rw [hc, Bool.false_or, Bool.and_eq_true, not_and, Bool.not_eq_true]
    exact hconnector

theorem endsWord_drop_extent (s : List Char) : EndsWord (s.drop (extent 0 s)) := by
  induction s with
  | nil => trivial
  | cons c rest ih =>
    by_cases h : (isWord c || (isConnector c && startsWord rest)) = true
    · rw [extent_cons h]
      exact ih
    · have hzero : extent 0 (c :: rest) = 0 := by rw [extent, if_neg h]
      rw [Bool.or_eq_true, not_or, Bool.not_eq_true, Bool.and_eq_true, not_and, Bool.not_eq_true] at h
      rw [hzero]
      exact h

/-- What is counted makes a word together with a word character in front of it, and by itself when it
starts as one. -/
theorem isWordText_take_extent (s : List Char) :
    (∀ c, isWord c = true → IsWordText (c :: s.take (extent 0 s))) ∧
      (startsWord s = true → IsWordText (s.take (extent 0 s))) := by
  -- both at once: what follows a connector has to start as a word, what follows a word character not
  induction s with
  | nil => exact ⟨fun c hc => .run (isRun_singleton hc), by simp [startsWord]⟩
  | cons d rest ih =>
    obtain ⟨hbehind, halone⟩ := ih
    by_cases hd : isWord d = true
    · have hword := hbehind d hd
      rw [extent_cons (by simp [hd]), List.take_succ_cons]
      exact ⟨fun c hc => hword.cons hc, fun _ => hword⟩
    · have hstarts : startsWord (d :: rest) ≠ true := hd
      refine ⟨fun c hc => ?_, fun h => absurd h hstarts⟩
      by_cases hjoin : (isConnector d && startsWord rest) = true
      · rw [extent_cons (by simp [hjoin]), List.take_succ_cons]
        rw [Bool.and_eq_true] at hjoin
        exact .join (isRun_singleton hc) hjoin.1 (halone hjoin.2)
      · have hzero : extent 0 (d :: rest) = 0 := by
          rw [extent, if_neg (by simp [hd, hjoin])]
        rw [hzero]
        exact .run (isRun_singleton hc)

end

/-- The tokens of a text that starts at an offset, one after another. -/
inductive Tiles : Nat → List Char → List Token → Prop where
  | nil {pos : Nat} : Tiles pos [] []
  | blank {pos : Nat} {c : Char} {s : List Char} {ts : List Token} (hc : isBlank c = true)
      (h : Tiles (pos + 1) s ts) : Tiles pos (c :: s) ts
  | mark {pos : Nat} {c : Char} {s : List Char} {ts : List Token} (hword : isWord c = false)
      (hblank : isBlank c = false) (h : Tiles (pos + 1) s ts) :
      Tiles pos (c :: s) ({ text := [c], start := pos, stop := pos + 1 } :: ts)
  | word {pos : Nat} {w s : List Char} {ts : List Token} (hw : IsWordText w) (hs : EndsWord s)
      (h : Tiles (pos + w.length) s ts) :
      Tiles pos (w ++ s) ({ text := w, start := pos, stop := pos + w.length } :: ts)

/-- A word or a mark, and what follows it. -/
theorem Tiles.cons {pos : Nat} {w s : List Char} {ts : List Token} (hw : IsMark w ∨ IsWordText w)
    (hs : IsWordText w → EndsWord s) (h : Tiles (pos + w.length) s ts) :
    Tiles pos (w ++ s) ({ text := w, start := pos, stop := pos + w.length } :: ts) := by
  obtain ⟨c, rfl, hword, hblank⟩ | hw := hw
  · exact .mark hword hblank h
  · exact .word hw (hs hw) h

theorem tiles_scan (pos : Nat) (s : List Char) : Tiles pos s (scan pos s) := by
  fun_induction scan pos s with
  | case1 => exact .nil
  | case2 pos c rest hc n ih =>
    have hw := (isWordText_take_extent rest).1 c hc
    have hlength : (c :: rest.take n).length = n + 1 := by
      rw [List.length_cons, List.length_take, Nat.min_eq_left (extent_le_length rest)]
    have hword : Tiles pos (c :: rest.take n ++ rest.drop n) _ :=
      .word hw (endsWord_drop_extent rest) (by rwa [hlength])
    rw [List.cons_append, List.take_append_drop, hlength] at hword
    exact hword
  | case3 pos c rest hc hblank ih => exact .blank hblank ih
  | case4 pos c rest hc hblank ih =>
    exact .mark (Bool.eq_false_iff.2 hc) (Bool.eq_false_iff.2 hblank) ih

/-- A text is read as tokens in one way. -/
theorem Tiles.eq_scan {pos : Nat} {s : List Char} {ts : List Token} (h : Tiles pos s ts) :
    ts = scan pos s := by
  induction h with
  | nil => rw [scan]
  | blank hc _ ih => rw [scan, if_neg (by simp [isWord_of_isBlank hc]), if_pos hc, ih]
  | mark hword hblank _ ih => rw [scan, if_neg (by simp [hword]), if_neg (by simp [hblank]), ih]
  | @word pos w s ts hw hs _ ih =>
    -- the scan counts from the second character on
    have hextent := hw.extent_append s
    obtain ⟨c, v, rfl, hc⟩ := hw.exists_cons
    rw [List.cons_append, extent_cons (by simp [hc]), extent_of_endsWord hs, List.length_cons] at hextent
    have hn : extent 0 (v ++ s) = v.length := by omega
    rw [List.cons_append, scan, if_pos hc]
    simp only [hn, List.take_left, List.drop_left, ih]
    rfl

theorem tiles_iff {pos : Nat} {s : List Char} {ts : List Token} : Tiles pos s ts ↔ ts = scan pos s :=
  ⟨Tiles.eq_scan, fun h => h ▸ tiles_scan pos s⟩

/-- A token at its place in a text: a mark, or a word that is as long as can be. -/
structure Fits (text : List Char) (t : Token) : Prop where
  nonempty : t.start < t.stop
  inside : t.stop ≤ text.length
  sliced : t.text = slice text.toArray t.start t.stop
  shape : IsMark t.text ∨ IsWordText t.text
  maximal : IsWordText t.text → EndsWord (text.drop t.stop.toNat)
  label : t.label = ['O']

/-- Tokens that are apart and in order, and leave only white space of a text from an offset on. -/
structure Spans (text : List Char) (pos : Nat) (ts : List Token) : Prop where
  start_le : ∀ t ∈ ts, pos ≤ t.start
  fits : ∀ t ∈ ts, Fits text t
  ordered : ts.Pairwise fun t u => t.stop ≤ u.start
  outside : ∀ i c, pos ≤ i → text[i]? = some c → (∀ t ∈ ts, ¬(t.start ≤ i ∧ i < t.stop)) →
    isBlank c = true

section

variable {text w s : List Char} {pos : Nat} {t : Token} {ts : List Token}

theorem Fits.of_drop (h : text.drop pos = w ++ s) (hw : w ≠ []) (hshape : IsMark w ∨ IsWordText w)
    (hmax : IsWordText w → EndsWord s) : Fits text { text := w, start := pos, stop := pos + w.length } := by
  have hpos := List.length_pos_iff.2 hw
  have hlength := congrArg List.length h
  rw [List.length_drop, List.length_append] at hlength
  have hs : text.drop (pos + w.length) = s := by
    rw [← List.drop_drop, h, List.drop_left]
  refine ⟨by simp only; omega, by simp only; omega, ?_, hshape, ?_, rfl⟩
  · rw [← Int.natCast_add, slice_of_drop h]
  · intro hword
    have hcast : ((pos : Int) + w.length).toNat = pos + w.length := by omega
    rw [hcast, hs]
    exact hmax hword

/-- What a token holds stands in the text where the token starts. -/
theorem Fits.exists_eq (h : Fits text t) (hpos : (pos : Int) ≤ t.start) :
    ∃ (n : Nat) (w : List Char), t = { text := w, start := n, stop := n + w.length } ∧ pos ≤ n ∧
      text.drop n = w ++ text.drop (n + w.length) := by
  obtain ⟨n, hn⟩ := Int.eq_ofNat_of_zero_le (a := t.start) (by omega)
  obtain ⟨m, hm⟩ := Int.eq_ofNat_of_zero_le (a := t.stop) (by have := h.nonempty; omega)
  have hnonempty := h.nonempty
  have hinside := h.inside
  have hsliced := h.sliced
  rw [hn, hm, slice_toArray, place_natCast, place_natCast, Nat.min_eq_left (by omega),
    Nat.min_eq_left (by omega)] at hsliced
  have hlength : n + t.text.length = m := by
    rw [hsliced, List.length_take, List.length_drop]
    omega
  refine ⟨n, t.text, ?_, by omega, ?_⟩
  · obtain ⟨w, start, stop, label⟩ := t
    obtain rfl : label = ['O'] := h.label
    obtain rfl : start = n := hn
    obtain rfl : stop = m := hm
    rw [← hlength]
    rfl
  · have hsplit : n + t.text.length = n + (m - n) := by omega
    rw [hsplit, ← List.drop_drop, hsliced, List.take_append_drop]

theorem spans_nil : Spans text pos [] ↔ ∀ i c, pos ≤ i → text[i]? = some c → isBlank c = true := by
  constructor
  · intro h i c hi hc
    exact h.outside i c hi hc (by simp)
  · intro h
    exact ⟨by simp, by simp, .nil, fun i c hi hc _ => h i c hi hc⟩

/-- Where there is no token there is only white space. -/
theorem Spans.rest_blank (h : Spans text pos []) : ∀ c ∈ text.drop pos, isBlank c = true := by
  intro c hc
  obtain ⟨i, hi⟩ := List.mem_iff_getElem?.1 hc
  rw [List.getElem?_drop] at hi
  exact spans_nil.1 h (pos + i) c (Nat.le_add_right pos i) hi

/-- Tokens span a text when white space precedes the first of them, and the others span the rest. -/
theorem spans_cons : Spans text pos (t :: ts) ↔ pos ≤ t.start ∧ Fits text t ∧
    (∀ i c, pos ≤ i → (i : Int) < t.start → text[i]? = some c → isBlank c = true) ∧
    Spans text t.stop.toNat ts := by
  constructor
  · intro h
    obtain ⟨hpos, -⟩ := List.forall_mem_cons.1 h.start_le
    obtain ⟨hfits, hothers⟩ := List.forall_mem_cons.1 h.fits
    obtain ⟨hnext, hordered⟩ := List.pairwise_cons.1 h.ordered
    have hnonempty := hfits.nonempty
    refine ⟨hpos, hfits, fun i c hi hbefore hc => ?_, fun u hu => ?_, hothers, hordered, ?_⟩
    · refine h.outside i c hi hc (List.forall_mem_cons.2 ⟨by omega, fun u hu => ?_⟩)
      have hstart := hnext u hu
      omega
    · have hstart := hnext u hu
      omega
    · intro i c hi hc houtside
      exact h.outside i c (by omega) hc (List.forall_mem_cons.2 ⟨by omega, houtside⟩)
  · rintro ⟨hpos, hfits, hbefore, hrest⟩
    have hnonempty := hfits.nonempty
    have hnext : ∀ u ∈ ts, t.stop ≤ u.start := by
      intro u hu
      have hstart := hrest.start_le u hu
      omega
    refine ⟨List.forall_mem_cons.2 ⟨hpos, fun u hu => ?_⟩, List.forall_mem_cons.2 ⟨hfits, hrest.fits⟩,
      List.pairwise_cons.2 ⟨hnext, hrest.ordered⟩, fun i c hi hc houtside => ?_⟩
    · have hstart := hnext u hu
      omega
    · obtain ⟨hself, hothers⟩ := List.forall_mem_cons.1 houtside
      by_cases hearly : (i : Int) < t.start
      · exact hbefore i c hi hearly hc
      · exact hrest.outside i c (by omega) hc hothers

theorem Spans.skip {c : Char} (h : Spans text (pos + 1) ts) (hc : text[pos]? = some c)
    (hblank : isBlank c = true) : Spans text pos ts := by
  refine ⟨fun t ht => ?_, h.fits, h.ordered, fun i d hi hd houtside => ?_⟩
  · have hstart := h.start_le t ht
    omega
  · obtain rfl | hlater := Nat.eq_or_lt_of_le hi
    · obtain rfl := Option.some.inj (hd.symm.trans hc)
      exact hblank
    · exact h.outside i d hlater hd houtside

theorem Tiles.spans (h : Tiles pos s ts) (hs : text.drop pos = s) : Spans text pos ts := by
  induction h with
  | nil =>
    rw [List.drop_eq_nil_iff] at hs
    refine spans_nil.2 fun i c hi hc => ?_
    have hlt := (List.getElem?_eq_some_iff.1 hc).1
    omega
  | @blank pos c s ts hblank _ ih =>
    have hnext : text.drop (pos + 1) = s := by rw [← List.drop_drop, hs, List.drop_one, List.tail_cons]
    have hc : text[pos]? = some c := by rw [← List.head?_drop, hs, List.head?_cons]
    exact (ih hnext).skip hc hblank
  | @mark pos c s ts hword hblank _ ih =>
    have hnext : text.drop (pos + 1) = s := by rw [← List.drop_drop, hs, List.drop_one, List.tail_cons]
    have hnot : ¬IsWordText [c] := by
      intro hw
      obtain ⟨d, v, heq, hd⟩ := hw.exists_cons
      rw [(List.cons.inj heq).1, hd] at hword
      cases hword
    have hfits := Fits.of_drop (w := [c]) hs (List.cons_ne_nil c []) (.inl ⟨c, rfl, hword, hblank⟩)
      (fun hw => absurd hw hnot)
    exact spans_cons.2 ⟨Int.le_refl _, hfits, fun i d hi hlt => by simp only at hlt; omega, ih hnext⟩
  | @word pos w s ts hw hmax _ ih =>
    have hnext : text.drop (pos + w.length) = s := by rw [← List.drop_drop, hs, List.drop_left]
    have hne : w ≠ [] := by
      obtain ⟨c, v, rfl, -⟩ := hw.exists_cons
      exact List.cons_ne_nil c v
    have hfits := Fits.of_drop hs hne (.inr hw) (fun _ => hmax)
    exact spans_cons.2 ⟨Int.le_refl _, hfits, fun i d hi hlt => by simp only at hlt; omega, ih hnext⟩

theorem Tiles.skip {b : List Char} (hb : ∀ c ∈ b, isBlank c = true) (h : Tiles (pos + b.length) s ts) :
    Tiles pos (b ++ s) ts := by
  induction b generalizing pos with
  | nil => exact h
  | cons c b ih =>
    obtain ⟨hc, hrest⟩ := List.forall_mem_cons.1 hb
    refine .blank hc (ih hrest ?_)
    rwa [Nat.add_assoc, Nat.add_comm 1]

/-- White space precedes the first of some tokens, and the others span what follows it. -/
theorem Spans.exists_gap (h : Spans text pos (t :: ts)) :
    ∃ (n : Nat) (gap w : List Char), t = { text := w, start := n, stop := n + w.length } ∧
      (∀ c ∈ gap, isBlank c = true) ∧ n = pos + gap.length ∧
      text.drop pos = gap ++ (w ++ text.drop (n + w.length)) ∧ Spans text (n + w.length) ts := by
  obtain ⟨hpos, hfits, hbefore, hrest⟩ := spans_cons.1 h
  obtain ⟨n, w, rfl, hn, hdrop⟩ := hfits.exists_eq hpos
  have hblank : ∀ c ∈ (text.drop pos).take (n - pos), isBlank c = true := by
    intro c hc
    obtain ⟨i, hi⟩ := List.mem_iff_getElem?.1 hc
    rw [List.getElem?_take, List.getElem?_drop] at hi
    split at hi
    · exact hbefore (pos + i) c (by omega) (by simp only; omega) hi
    · cases hi
  have hlength : n = pos + ((text.drop pos).take (n - pos)).length := by
    have hinside := hfits.inside
    simp only at hinside
    rw [List.length_take, List.length_drop]
    omega
  have hlater : text.drop n = (text.drop pos).drop (n - pos) := by
    rw [List.drop_drop]
    congr 1
    omega
  refine ⟨n, _, w, rfl, hblank, hlength, ?_, hrest⟩
  rw [← hdrop, hlater, List.take_append_drop]

theorem Spans.tiles (h : Spans text pos ts) : Tiles pos (text.drop pos) ts := by
  induction ts generalizing pos with
  | nil =>
    have hnone : Tiles pos (text.drop pos ++ []) [] := .skip h.rest_blank .nil
    rwa [List.append_nil] at hnone
  | cons t ts ih =>
    obtain ⟨hfits, -⟩ := List.forall_mem_cons.1 h.fits
    obtain ⟨n, gap, w, rfl, hblank, rfl, hdrop, hrest⟩ := h.exists_gap
    rw [hdrop]
    exact .skip hblank (.cons hfits.shape hfits.maximal (ih hrest))

/-- The tokens of a text are the one list of tokens with such spans. -/
theorem spans_iff {text : List Char} {ts : List Token} : Spans text 0 ts ↔ ts = ofText text := by
  rw [ofText, ← tiles_iff]
  exact ⟨Spans.tiles, fun h => h.spans rfl⟩

end

/-- What a token holds is from the text. -/
theorem mem_of_mem_scan {pos : Nat} {s : List Char} {t : Token} (ht : t ∈ scan pos s) {c : Char}
    (hc : c ∈ t.text) : c ∈ s := by
  fun_induction scan pos s with
  | case1 => cases ht
  | case2 pos d rest hword n ih =>
    obtain rfl | ht := List.mem_cons.1 ht
    · obtain rfl | hc := List.mem_cons.1 hc
      · exact List.mem_cons_self
      · exact List.mem_cons_of_mem d (List.mem_of_mem_take hc)
    · exact List.mem_cons_of_mem d (List.mem_of_mem_drop (ih ht))
  | case3 pos d rest hword hblank ih => exact List.mem_cons_of_mem d (ih ht)
  | case4 pos d rest hword hblank ih =>
    obtain rfl | ht := List.mem_cons.1 ht
    · rw [List.mem_singleton.1 hc]
      exact List.mem_cons_self
    · exact List.mem_cons_of_mem d (ih ht)

example : (ofText "a-b--c' d".toList).map text =
    [['a', '-', 'b'], ['-'], ['-'], ['c'], ['\''], ['d']] := by decide +kernel

end Token

end LineTagger
