import LineTagger.Gazetteer

/-!
What a gazetteer does with the tokens of a text, told of the labels and phrases alone: from left to
right the longest phrase that starts at a token carries the first label that lists it, and a token
where no phrase starts is of the background.
-/

namespace LineTagger.Gazetteer

variable {caseSensitive : Bool} {entities : Entities} {background : List Char}

/-- Whether a label lists a phrase with some key. -/
def lists (caseSensitive : Bool) (k : List (List Char)) (e : List Char × List (List Char)) : Bool :=
  e.2.any fun phrase => phraseKey caseSensitive phrase = k

/-- The first label that lists a phrase with some key. No label does for no token at all. -/
def firstLabel? (caseSensitive : Bool) (entities : Entities) (k : List (List Char)) :
    Option (List Char) :=
  if k = [] then none else (entities.find? (lists caseSensitive k)).map Prod.fst

/-- The label of some tokens as a phrase. -/
def labelOf? (caseSensitive : Bool) (entities : Entities) (ts : List Token) : Option (List Char) :=
  firstLabel? caseSensitive entities (key caseSensitive (ts.map Token.text))

/-- Tokens, and the same with labels: the longest phrase first, from left to right. -/
inductive LeftmostLongest (caseSensitive : Bool) (entities : Entities) (background : List Char) :
    List Token → List Token → Prop where
  | nil : LeftmostLongest caseSensitive entities background [] []
  | phrase {ts rest us : List Token} {l : List Char}
      (hlabel : labelOf? caseSensitive entities ts = some l)
      (hlongest : ∀ ws, ws <+: ts ++ rest → ts.length < ws.length →
        labelOf? caseSensitive entities ws = none)
      (h : LeftmostLongest caseSensitive entities background rest us) :
      LeftmostLongest caseSensitive entities background (ts ++ rest)
        (ts.map (·.withLabel l) ++ us)
  | background {t : Token} {rest us : List Token}
      (hnone : ∀ ws, ws <+: t :: rest → labelOf? caseSensitive entities ws = none)
      (h : LeftmostLongest caseSensitive entities background rest us) :
      LeftmostLongest caseSensitive entities background (t :: rest)
        (t.withLabel background :: us)

section

variable {table : List (List (List Char) × List Char)} {k : List (List Char)}

theorem any_eq_isSome_lookup : table.any (·.1 = k) = (table.lookup k).isSome := by
  induction table with
  | nil => rfl
  | cons e table ih =>
    rw [List.any_cons, ih, List.lookup_cons]
    by_cases hk : e.1 = k
    · simp [hk]
    · have hne : (k == e.1) = false := by simpa using Ne.symm hk
      simp [hk, hne]

/-- A phrase that is added is found under its own key, unless one was there. -/
theorem lookup_add (p : List (List Char)) (l : List Char) :
    (add table p l).lookup k = (table.lookup k).or (if k ≠ [] ∧ p = k then some l else none) := by
  unfold add
  rw [any_eq_isSome_lookup]
  by_cases hadds : (p.isEmpty || (table.lookup p).isSome) = true
  · rw [if_pos hadds]
    by_cases hp : k ≠ [] ∧ p = k
    · obtain ⟨hk, rfl⟩ := hp
      have hsome : (table.lookup p).isSome = true := by simpa [hk] using hadds
      rw [Option.or_of_isSome hsome]
    · rw [if_neg hp, Option.or_none]
  · rw [if_neg hadds, List.lookup_append]
    congr 1
    have hne : p ≠ [] := by
      rintro rfl
      exact hadds rfl
    by_cases hp : p = k
    · subst hp
      simp [hne]
    · have hdiffers : (k == p) = false := by simpa using Ne.symm hp
      simp [List.lookup_cons, hdiffers, hp]

theorem lookup_phrases (phrases : List (List Char)) (l : List Char) :
    (phrases.foldl (fun table p => add table (phraseKey caseSensitive p) l) table).lookup k =
      (table.lookup k).or (if k ≠ [] ∧ lists caseSensitive k (l, phrases) = true then some l
        else none) := by
  induction phrases generalizing table with
  | nil => simp [lists]
  | cons p phrases ih =>
    rw [List.foldl_cons, ih, lookup_add, Option.or_assoc]
    congr 1
    by_cases hk : k = []
    · simp [hk]
    · by_cases hp : phraseKey caseSensitive p = k <;> simp [lists, hk, hp]

/-- The table holds for every key the first label that lists it. -/
theorem lookup_tableOf : (tableOf caseSensitive entities).lookup k =
    firstLabel? caseSensitive entities k := by
  have hfold (table : List (List (List Char) × List Char)) :
      (entities.foldl (fun table e => e.2.foldl
        (fun table p => add table (phraseKey caseSensitive p) e.1) table) table).lookup k =
        (table.lookup k).or (firstLabel? caseSensitive entities k) := by
    induction entities generalizing table with
    | nil => simp [firstLabel?]
    | cons e entities ih =>
      obtain ⟨l, phrases⟩ := e
      rw [List.foldl_cons, ih, lookup_phrases, Option.or_assoc]
      congr 1
      by_cases hk : k = []
      · simp [firstLabel?, hk]
      · cases hlists : lists caseSensitive k (l, phrases) <;> simp [firstLabel?, hk, hlists]
  exact hfold []

end

section

variable {g : Gazetteer} {ts : List Token}

theorem le_foldl_max {ns : List Nat} {n : Nat} (h : n ∈ ns) (m : Nat) : n ≤ ns.foldl max m := by
  have hstart (ns : List Nat) (m : Nat) : m ≤ ns.foldl max m := by
    induction ns generalizing m with
    | nil => exact Nat.le_refl m
    | cons n ns ih => exact Nat.le_trans (Nat.le_max_left m n) (ih (max m n))
  induction ns generalizing m with
  | nil => cases h
  | cons k ns ih =>
    obtain rfl | h := List.mem_cons.1 h
    · exact Nat.le_trans (Nat.le_max_right m n) (hstart ns (max m n))
    · exact ih h (max m k)

/-- No phrase of the table is longer than the longest. -/
theorem length_le_longest {l : List Char} (h : g.find? ts = some l) : ts.length ≤ g.longest := by
  obtain ⟨before, after, htable, -⟩ := List.lookup_eq_some_iff.1 h
  have hmem : (key g.caseSensitive (ts.map Token.text), l) ∈ g.table := by
    rw [htable]
    simp
  have hlength : (key g.caseSensitive (ts.map Token.text)).length = ts.length := by
    unfold key
    split <;> simp
  have hmap := List.mem_map_of_mem (f := fun e : List (List Char) × List Char => e.1.length) hmem
  rw [← hlength]
  exact le_foldl_max hmap 0

theorem longestMatch?_eq_none_iff {n : Nat} : g.longestMatch? n ts = none ↔
    ∀ k, k < n → g.find? (ts.take (k + 1)) = none := by
  induction n with
  | zero => simp [longestMatch?]
  | succ n ih =>
    cases hfind : g.find? (ts.take (n + 1)) with
    | some l =>
      simp only [longestMatch?, hfind, reduceCtorEq, false_iff]
      intro h
      rw [h n (Nat.lt_succ_self n)] at hfind
      cases hfind
    | none =>
      simp only [longestMatch?, hfind, ih]
      constructor
      · intro h k hk
        obtain hk | rfl := Nat.lt_succ_iff_lt_or_eq.1 hk
        · exact h k hk
        · exact hfind
      · exact fun h k hk => h k (by omega)

theorem longestMatch?_eq_some_iff {n m : Nat} {l : List Char} :
    g.longestMatch? n ts = some (m, l) ↔ m < n ∧ g.find? (ts.take (m + 1)) = some l ∧
      ∀ k, m < k → k < n → g.find? (ts.take (k + 1)) = none := by
  induction n with
  | zero => simp [longestMatch?]
  | succ n ih =>
    cases hfind : g.find? (ts.take (n + 1)) with
    | some found =>
      simp only [longestMatch?, hfind, Option.some.injEq, Prod.mk.injEq]
      constructor
      · rintro ⟨rfl, rfl⟩
        exact ⟨Nat.lt_succ_self n, hfind, fun k hk hn => by omega⟩
      · rintro ⟨hm, hl, hlongest⟩
        obtain hlater | rfl := Nat.lt_succ_iff_lt_or_eq.1 hm
        · rw [hlongest n hlater (Nat.lt_succ_self n)] at hfind
          cases hfind
        · exact ⟨rfl, Option.some.inj (hfind.symm.trans hl)⟩
    | none =>
      simp only [longestMatch?, hfind, ih]
      constructor
      · rintro ⟨hm, hl, hlongest⟩
        refine ⟨by omega, hl, fun k hk hn => ?_⟩
        obtain hn | rfl := Nat.lt_succ_iff_lt_or_eq.1 hn
        · exact hlongest k hk hn
        · exact hfind
      · rintro ⟨hm, hl, hlongest⟩
        have hne : m ≠ n := by
          rintro rfl
          rw [hl] at hfind
          cases hfind
        exact ⟨by omega, hl, fun k hk hn => hlongest k hk (by omega)⟩

/-- What is longer than the longest phrase need not be looked up. -/
theorem find?_of_prefix {m : Nat}
    (h : ∀ k, m ≤ k → k < (ts.take g.longest).length → g.find? (ts.take (k + 1)) = none)
    {ws : List Token} (hws : ws <+: ts) (hm : m < ws.length) : g.find? ws = none := by
  cases hfind : g.find? ws with
  | none => rfl
  | some l =>
    have hlongest := length_le_longest hfind
    have hlength := hws.length_le
    have htake := h (ws.length - 1) (by omega) (by rw [List.length_take]; omega)
    have hsucc : ws.length - 1 + 1 = ws.length := by omega
    rw [hsucc, ← List.prefix_iff_eq_take.1 hws, hfind] at htake
    exact htake

end

section

variable {g : Gazetteer} {name : Value} (hg : g = ofEntities entities background caseSensitive name)
  {ts us : List Token}

include hg

theorem find?_eq (ts : List Token) : g.find? ts = labelOf? caseSensitive entities ts := by
  subst hg
  exact lookup_tableOf

theorem LeftmostLongest.eq_labelTokens (h : LeftmostLongest caseSensitive entities background ts us) :
    us = g.labelTokens ts := by
  induction h with
  | nil => rw [labelTokens]
  | @phrase ws rest us l hlabel hlongest _ ih =>
    cases ws with
    | nil => simp [labelOf?, firstLabel?, key] at hlabel
    | cons t ws =>
      rw [← find?_eq hg] at hlabel
      -- the phrase is in the table, so the search starts no shorter than it
      have hbound := length_le_longest hlabel
      rw [List.length_cons] at hbound
      have hmatch : g.longestMatch? ((t :: (ws ++ rest)).take g.longest).length (t :: (ws ++ rest)) =
          some (ws.length, l) := by
        refine longestMatch?_eq_some_iff.2 ⟨?_, ?_, fun k hk hn => ?_⟩
        · rw [List.length_take, List.length_cons, List.length_append]
          omega
        · rwa [List.take_succ_cons, List.take_left]
        · rw [List.length_take] at hn
          have hlonger : ws.length + 1 < ((t :: (ws ++ rest)).take (k + 1)).length := by
            rw [List.length_take]
            omega
          rw [find?_eq hg]
          exact hlongest _ (List.take_prefix _ _) hlonger
      rw [List.cons_append, labelTokens, hmatch]
      simp only [List.take_left, List.drop_left, ← ih]
  | @background t rest us hnone _ ih =>
    have hmatch : g.longestMatch? ((t :: rest).take g.longest).length (t :: rest) = none := by
      refine longestMatch?_eq_none_iff.2 fun k hk => ?_
      rw [find?_eq hg]
      exact hnone _ (List.take_prefix _ _)
    have hbackground : g.background = background := by rw [hg]; rfl
    rw [labelTokens, hmatch]
    simp only [hbackground, ← ih]

theorem leftmostLongest_labelTokens (ts : List Token) :
    LeftmostLongest caseSensitive entities background ts (g.labelTokens ts) := by
  fun_induction g.labelTokens ts with
  | case1 => exact .nil
  | case2 t ts n l hmatch ih =>
    obtain ⟨hn, hlabel, hlongest⟩ := longestMatch?_eq_some_iff.1 hmatch
    have hlength : (t :: ts.take n).length = n + 1 := by
      rw [List.length_take, List.length_cons] at hn
      rw [List.length_cons, List.length_take]
      omega
    have hnoLonger : ∀ ws, ws <+: t :: ts.take n ++ ts.drop n → (t :: ts.take n).length < ws.length →
        labelOf? caseSensitive entities ws = none := by
      intro ws hws hlonger
      rw [List.cons_append, List.take_append_drop] at hws
      rw [hlength] at hlonger
      rw [← find?_eq hg]
      exact find?_of_prefix (m := n + 1) (fun k hk => hlongest k (by omega)) hws hlonger
    have hphrase : LeftmostLongest caseSensitive entities background (t :: ts.take n ++ ts.drop n) _ :=
      .phrase (by rwa [← find?_eq hg]) hnoLonger ih
    rwa [List.cons_append, List.take_append_drop] at hphrase
  | case3 t ts hmatch ih =>
    rw [longestMatch?_eq_none_iff] at hmatch
    have hbackground : g.background = background := by rw [hg]; rfl
    rw [hbackground]
    refine .background (fun ws hws => ?_) ih
    cases ws with
    | nil => simp [labelOf?, firstLabel?, key]
    | cons u ws =>
      rw [← find?_eq hg]
      exact find?_of_prefix (m := 0) (fun k _ => hmatch k) hws (Nat.succ_pos _)

end

section

variable {g : Gazetteer} {ts us : List Token}

/-- What of a token is compared with phrases. -/
def fold (g : Gazetteer) (t : Token) : List Char := if g.caseSensitive then t.text else lower t.text

theorem find?_eq_lookup (g : Gazetteer) (ts : List Token) : g.find? ts = g.table.lookup (ts.map g.fold) := by
  unfold find? key fold
  split
  · rfl
  · rw [List.map_map]
    rfl

theorem longestMatch?_congr (h : ts.map g.fold = us.map g.fold) (n : Nat) :
    g.longestMatch? n ts = g.longestMatch? n us := by
  have hfind (n : Nat) : g.find? (ts.take n) = g.find? (us.take n) := by
    rw [find?_eq_lookup, find?_eq_lookup, List.map_take, List.map_take, h]
  induction n with
  | zero => rfl
  | succ n ih => rw [longestMatch?, longestMatch?, hfind, ih]

end

theorem map_labelTokens {α : Type} {f : Token → α} (hf : ∀ t l, f (t.withLabel l) = f t) (g : Gazetteer)
    (ts : List Token) : (g.labelTokens ts).map f = ts.map f := by
  have hsame (l : List Char) : f ∘ (·.withLabel l) = f := funext fun t => hf t l
  fun_induction g.labelTokens ts with
  | case1 => rfl
  | case2 t ts n l hmatch ih =>
    rw [List.map_append, List.map_map, hsame, ih, ← List.map_append, List.cons_append,
      List.take_append_drop]
  | case3 t ts hmatch ih => rw [List.map_cons, hf, ih, List.map_cons]

theorem length_labelTokens (g : Gazetteer) (ts : List Token) : (g.labelTokens ts).length = ts.length := by
  have hsame := congrArg List.length (map_labelTokens (fun _ _ => rfl) g ts (f := Token.text))
  rwa [List.length_map, List.length_map] at hsame

/-- The phrase that starts first is taken, and the longer one starts too late. -/
example :
    let entities : Entities := [(['X'], ["a b".toList]), (['Y'], ["b c d".toList, "a".toList])]
    ((ofEntities entities ['O'] true .null).label "a b c d a".toList).map Token.label =
      [['X'], ['X'], ['O'], ['O'], ['Y']] := by
  decide +kernel

end LineTagger.Gazetteer
