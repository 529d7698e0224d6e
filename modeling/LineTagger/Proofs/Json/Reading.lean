import LineTagger.Proofs.Json.Numbers
import LineTagger.Proofs.Json.Strings

/-!
The reader reads the texts of JSON and no others, and gives the values that their lexemes denote.
-/

namespace LineTagger.Json

/-- Text that begins with some lexemes, and the rest of it. -/
def Begins (s : List Char) (ls : List Lexeme) (rest : List Char) : Prop := ∀ ks, Lexes rest ks → Lexes s (ls ++ ks)

/-- How a value is read, by what it begins with. -/
inductive ReadsValue (fuel : Nat) : Nat → List Char → Value → List Char → Prop where
  | text {depth : Nat} {s t rest : List Char} (h : readString ('"' :: s) (s.length + 1) [] s = .ok (t, rest)) :
      ReadsValue fuel depth ('"' :: s) (.text (String.ofList t)) rest
  | emptyMap {depth : Nat} {s rest : List Char} (hclose : skipBlanks s = '\x7d' :: rest) :
      ReadsValue fuel (depth + 1) ('\x7b' :: s) (.map []) rest
  | map {depth : Nat} {s rest : List Char} {v : Value} (hopen : ∀ r, skipBlanks s ≠ '\x7d' :: r)
      (h : readMembers fuel depth [] (skipBlanks s) = .ok (v, rest)) : ReadsValue fuel (depth + 1) ('\x7b' :: s) v rest
  | emptyList {depth : Nat} {s rest : List Char} (hclose : skipBlanks s = ']' :: rest) :
      ReadsValue fuel (depth + 1) ('[' :: s) (.list []) rest
  | list {depth : Nat} {s rest : List Char} {v : Value} (hopen : ∀ r, skipBlanks s ≠ ']' :: r)
      (h : readElements fuel depth [] (skipBlanks s) = .ok (v, rest)) : ReadsValue fuel (depth + 1) ('[' :: s) v rest
  | word {depth : Nat} {s rest : List Char} {v : Value} (hfirst : ∀ c ∈ ['"', '\x7b', '['], ∀ r, s ≠ c :: r)
      (h : readWord? s = some (v, rest)) : ReadsValue fuel depth s v rest
  | number {depth : Nat} {s rest : List Char} {v : Value} (hfirst : ∀ c ∈ ['"', '\x7b', '['], ∀ r, s ≠ c :: r)
      (hword : readWord? s = none) (h : readNumber s = .ok (v, rest)) : ReadsValue fuel depth s v rest

section

variable {s w x rest : List Char} {l : Lexeme} {ls ks : List Lexeme} {c : Char} {v : Value} {fuel : Nat}

theorem Begins.append (h : Begins s ls x) (hx : Begins x ks rest) : Begins s (ls ++ ks) rest := by
  intro ns hrest
  rw [List.append_assoc]
  exact h _ (hx ns hrest)

theorem Begins.of_skipBlanks (h : Begins (skipBlanks s) ls rest) : Begins s ls rest := fun ks hrest =>
  (h ks hrest).of_skipBlanks

theorem begins_of_writes (hw : l.Writes w) (rest : List Char) : Begins (w ++ rest) [l] rest := fun _ hrest =>
  .cons hw hrest

theorem begins_sign (hc : c ∈ signs) (hs : skipBlanks s = c :: rest) : Begins s [.sign c] rest := by
  refine Begins.of_skipBlanks ?_
  rw [hs]
  exact begins_of_writes (.sign hc) rest

theorem begins_text {t : List Char} {opened : List Char} (h : readString opened fuel [] s = .ok (t, rest)) :
    Begins ('"' :: s) [.text t] rest := by
  obtain ⟨w, u, rfl, hw, rfl⟩ := exists_of_readString h
  have hwrites := begins_of_writes (.text hw) rest
  simpa using hwrites

theorem exists_of_readWord? (h : readWord? s = some (v, rest)) : ∃ w, s = w ++ rest ∧ (w, v) ∈ words := by
  obtain ⟨⟨w, u⟩, hfind, heq⟩ := Option.map_eq_some_iff.1 h
  cases heq
  have hstart := List.find?_some hfind
  have hs : w ++ s.drop w.length = s := List.prefix_iff_eq_append.1 (List.isPrefixOf_iff_prefix.1 hstart)
  exact ⟨w, hs.symm, List.mem_of_find?_eq_some hfind⟩

theorem readValue_eq_ok_iff {depth : Nat} :
    readValue (fuel + 1) depth s = .ok (v, rest) ↔ ReadsValue fuel depth s v rest := by
  constructor
  · intro h
    -- a quote, an opening brace, an opening bracket, or anything else
    rw [readValue.eq_def] at h
    dsimp only at h
    split at h
    · split at h
      · cases h
      · next hstring =>
        cases h
        exact .text hstring
    · obtain _ | depth := depth
      · cases h
      rw [if_neg (Nat.succ_ne_zero depth)] at h
      split at h
      · next hclose =>
        cases h
        exact .emptyMap hclose
      · next hopen => exact .map hopen h
    · obtain _ | depth := depth
      · cases h
      rw [if_neg (Nat.succ_ne_zero depth)] at h
      split at h
      · next hclose =>
        cases h
        exact .emptyList hclose
      · next hopen => exact .list hopen h
    · next hquote hobject harray =>
      have hfirst : ∀ c ∈ ['"', '\x7b', '['], ∀ r, s ≠ c :: r := by
        simp only [List.forall_mem_cons]
        exact ⟨hquote, hobject, harray, List.forall_mem_nil _⟩
      split at h
      · next hword =>
        cases h
        exact .word hfirst hword
      · next hword => exact .number hfirst hword h
  · intro h
    cases h with
    | text h => rw [readValue, h]
    | emptyMap hclose | emptyList hclose => simp only [readValue, if_neg (Nat.succ_ne_zero _), hclose]
    | map hopen h =>
      rw [readValue, if_neg (Nat.succ_ne_zero _)]
      split
      · next hclose => exact absurd hclose (hopen _)
      · exact h
    | list hopen h =>
      rw [readValue, if_neg (Nat.succ_ne_zero _)]
      split
      · next hclose => exact absurd hclose (hopen _)
      · exact h
    | word hfirst h =>
      obtain ⟨hquote, hobject, harray, -⟩ := by simpa only [List.forall_mem_cons] using hfirst
      rw [readValue.eq_5 depth s fuel hquote hobject harray, h]
    | number hfirst hword h =>
      obtain ⟨hquote, hobject, harray, -⟩ := by simpa only [List.forall_mem_cons] using hfirst
      rw [readValue.eq_5 depth s fuel hquote hobject harray, hword]
      exact h

/-- Elements are a value, and behind it a closing bracket, or a comma and more of them. -/
theorem readElements_eq_ok_iff {depth : Nat} {us : List Value} :
    readElements (fuel + 1) depth us s = .ok (v, rest) ↔ ∃ u x, readValue fuel depth s = .ok (u, x) ∧
      (skipBlanks x = ']' :: rest ∧ v = .list (us.reverse ++ [u]) ∨
        ∃ y, skipBlanks x = ',' :: y ∧ readElements fuel depth (u :: us) (skipBlanks y) = .ok (v, rest)) := by
  constructor
  · intro h
    rw [readElements.eq_def] at h
    dsimp only at h
    split at h
    · cases h
    · next u x hvalue =>
      refine ⟨u, x, hvalue, ?_⟩
      split at h
      · next hclose =>
        cases h
        exact .inl ⟨hclose, by rw [List.reverse_cons]⟩
      · next y hcomma => exact .inr ⟨y, hcomma, h⟩
      · cases h
  · rintro ⟨u, x, hvalue, ⟨hclose, rfl⟩ | ⟨y, hcomma, hmore⟩⟩
    · simp only [readElements, hvalue, hclose, List.reverse_cons]
    · simp only [readElements, hvalue, hcomma, hmore]

/-- Members are a name, a colon and a value, and behind them a closing brace, or a comma and more of them. -/
theorem readMembers_eq_ok_iff {depth : Nat} {kvs : List (String × Value)} :
    readMembers (fuel + 1) depth kvs s = .ok (v, rest) ↔ ∃ y name x z u r, s = '"' :: y ∧
      readString s (y.length + 1) [] y = .ok (name, x) ∧ skipBlanks x = ':' :: z ∧
      readValue fuel depth (skipBlanks z) = .ok (u, r) ∧
      (skipBlanks r = '\x7d' :: rest ∧ v = .map (Value.put kvs (String.ofList name) u) ∨
        ∃ q, skipBlanks r = ',' :: q ∧
          readMembers fuel depth (Value.put kvs (String.ofList name) u) (skipBlanks q) = .ok (v, rest)) := by
  constructor
  · intro h
    rw [readMembers.eq_def] at h
    dsimp only at h
    split at h
    case h_2 => cases h
    next y =>
    split at h
    · cases h
    next name x hname =>
    split at h
    case h_2 => cases h
    next z hcolon =>
    split at h
    · cases h
    next u r hvalue =>
    refine ⟨y, name, x, z, u, r, rfl, hname, hcolon, hvalue, ?_⟩
    split at h
    · next hclose =>
      cases h
      exact .inl ⟨hclose, rfl⟩
    · next q hcomma => exact .inr ⟨q, hcomma, h⟩
    · cases h
  · rintro ⟨y, name, x, z, u, r, rfl, hname, hcolon, hvalue, ⟨hclose, rfl⟩ | ⟨q, hcomma, hmore⟩⟩
    · simp only [readMembers, hname, hcolon, hvalue, hclose]
    · simp only [readMembers, hname, hcolon, hvalue, hcomma, hmore]

/-- What the reader gives with some fuel, it gives for lexemes that denote it. -/
structure Sound (fuel : Nat) : Prop where
  value : ∀ {depth : Nat} {s rest : List Char} {v : Value}, readValue fuel depth s = .ok (v, rest) →
    ∃ ls, Denotes depth ls (.value v) ∧ Begins s ls rest
  members : ∀ {depth : Nat} {kvs : List (String × Value)} {s rest : List Char} {v : Value},
    readMembers fuel depth kvs s = .ok (v, rest) →
      ∃ ms ls, v = .map (ms.foldl (fun kvs m => Value.put kvs m.1 m.2) kvs) ∧ Denotes depth ls (.members ms) ∧
        Begins s (ls ++ [.sign '\x7d']) rest
  elements : ∀ {depth : Nat} {us : List Value} {s rest : List Char} {v : Value},
    readElements fuel depth us s = .ok (v, rest) →
      ∃ vs ls, v = .list (us.reverse ++ vs) ∧ Denotes depth ls (.elements vs) ∧ Begins s (ls ++ [.sign ']']) rest

theorem Sound.value_succ (h : Sound fuel) {depth : Nat} (hread : readValue (fuel + 1) depth s = .ok (v, rest)) :
    ∃ ls, Denotes depth ls (.value v) ∧ Begins s ls rest := by
  have hsign {c : Char} (hc : c ∈ signs) (x : List Char) : Begins (c :: x) [.sign c] x :=
    begins_of_writes (.sign hc) x
  cases readValue_eq_ok_iff.1 hread with
  | text hstring => exact ⟨_, .text, begins_text hstring⟩
  | emptyMap hclose => exact ⟨_, .emptyMap, (hsign (by decide) _).append (begins_sign (by decide) hclose)⟩
  | map _ hmembers =>
    obtain ⟨ms, ls, rfl, hdenotes, hbegins⟩ := h.members hmembers
    rw [foldl_put]
    exact ⟨_, .map hdenotes, (hsign (by decide) _).append hbegins.of_skipBlanks⟩
  | emptyList hclose => exact ⟨_, .emptyList, (hsign (by decide) _).append (begins_sign (by decide) hclose)⟩
  | list _ helements =>
    obtain ⟨vs, ls, rfl, hdenotes, hbegins⟩ := h.elements helements
    exact ⟨_, .list hdenotes, (hsign (by decide) _).append hbegins.of_skipBlanks⟩
  | word _ hword =>
    obtain ⟨w, rfl, hw⟩ := exists_of_readWord? hword
    exact ⟨_, .scalar, begins_of_writes (.scalar (.inl hw)) rest⟩
  | number _ _ hnumber =>
    obtain ⟨w, rfl, hw⟩ := exists_of_readNumber hnumber
    exact ⟨_, .scalar, begins_of_writes (.scalar (.inr hw)) rest⟩

theorem Sound.members_succ (h : Sound fuel) {depth : Nat} {kvs : List (String × Value)}
    (hread : readMembers (fuel + 1) depth kvs s = .ok (v, rest)) :
    ∃ ms ls, v = .map (ms.foldl (fun kvs m => Value.put kvs m.1 m.2) kvs) ∧ Denotes depth ls (.members ms) ∧
      Begins s (ls ++ [.sign '\x7d']) rest := by
  obtain ⟨y, name, x, z, u, r, rfl, hname, hcolon, hvalue, hnext⟩ := readMembers_eq_ok_iff.1 hread
  obtain ⟨ls, hdenotes, hrest⟩ := h.value hvalue
  have hsign := (begins_text hname).append (begins_sign (by decide) hcolon)
  have hmember := hsign.append hrest.of_skipBlanks
  obtain ⟨hclose, rfl⟩ | ⟨q, hcomma, hmore⟩ := hnext
  · refine ⟨_, _, rfl, .member hdenotes, ?_⟩
    simpa using hmember.append (begins_sign (by decide) hclose)
  · obtain ⟨ms, ks, rfl, hmembers, hmore⟩ := h.members hmore
    refine ⟨_, _, rfl, .members hdenotes hmembers, ?_⟩
    simpa using (hmember.append (begins_sign (by decide) hcomma)).append hmore.of_skipBlanks

theorem Sound.elements_succ (h : Sound fuel) {depth : Nat} {us : List Value}
    (hread : readElements (fuel + 1) depth us s = .ok (v, rest)) :
    ∃ vs ls, v = .list (us.reverse ++ vs) ∧ Denotes depth ls (.elements vs) ∧
      Begins s (ls ++ [.sign ']']) rest := by
  obtain ⟨u, r, hvalue, hnext⟩ := readElements_eq_ok_iff.1 hread
  obtain ⟨ls, hdenotes, hbegins⟩ := h.value hvalue
  obtain ⟨hclose, rfl⟩ | ⟨y, hcomma, hmore⟩ := hnext
  · exact ⟨[u], ls, rfl, .element hdenotes, hbegins.append (begins_sign (by decide) hclose)⟩
  · obtain ⟨vs, ks, rfl, helements, hmore⟩ := h.elements hmore
    refine ⟨u :: vs, _, by simp, .elements hdenotes helements, ?_⟩
    simpa using (hbegins.append (begins_sign (by decide) hcomma)).append hmore.of_skipBlanks

theorem sound (fuel : Nat) : Sound fuel := by
  -- the readers call one another with one less, so all three go along at once
  induction fuel with
  | zero => exact ⟨fun h => (by cases h), fun h => (by cases h), fun h => (by cases h)⟩
  | succ fuel ih => exact ⟨ih.value_succ, ih.members_succ, ih.elements_succ⟩

/-- What a row of lexemes denotes is found by the reader in front of what follows it, and with it something of the
text is read. -/
def Finds (depth : Nat) (ls : List Lexeme) : Part → Prop
  | .value v => ∀ s ks fuel, Lexes s (ls ++ ks) → (∀ l ∈ ks.head?, ∃ c, l = .sign c) → 2 * s.length + 1 ≤ fuel →
      ∃ rest, readValue fuel depth (skipBlanks s) = .ok (v, rest) ∧ Lexes rest ks ∧ rest.length < s.length
  | .elements vs => ∀ s ks fuel us, Lexes s (ls ++ .sign ']' :: ks) → 2 * s.length + 2 ≤ fuel →
      ∃ rest, readElements fuel depth us (skipBlanks s) = .ok (.list (us.reverse ++ vs), rest) ∧ Lexes rest ks ∧
        rest.length < s.length
  | .members ms => ∀ s ks fuel kvs, Lexes s (ls ++ .sign '\x7d' :: ks) → 2 * s.length + 2 ≤ fuel →
      ∃ rest, readMembers fuel depth kvs (skipBlanks s) =
          .ok (.map (ms.foldl (fun kvs m => Value.put kvs m.1 m.2) kvs), rest) ∧ Lexes rest ks ∧
        rest.length < s.length

theorem Lexes.sign_cons (h : Lexes s (.sign c :: ls)) :
    ∃ x, skipBlanks s = c :: x ∧ Lexes x ls ∧ x.length < s.length := by
  obtain ⟨w, x, heq, hw, hx⟩ := h.exists_cons
  cases hw with
  | sign hc =>
    have hlength : (skipBlanks s).length ≤ s.length := (List.dropWhile_sublist _).length_le
    refine ⟨x, heq, hx, ?_⟩
    rw [heq] at hlength
    exact hlength

theorem Lexes.text_cons {t : List Char} (h : Lexes s (.text t :: ls)) :
    ∃ w x, skipBlanks s = '"' :: (w ++ '"' :: x) ∧ Spells w t ∧ Lexes x ls ∧ x.length < s.length := by
  obtain ⟨w, x, heq, hw, hx⟩ := h.exists_cons
  cases hw with
  | @text w t hw =>
    have hlength : (skipBlanks s).length ≤ s.length := (List.dropWhile_sublist _).length_le
    rw [heq] at hlength
    refine ⟨w, x, by simpa using heq, hw, hx, ?_⟩
    simp only [List.length_append, List.length_cons] at hlength
    omega

theorem readString_text {t : List Char} (hw : Spells w t) (opened rest : List Char) :
    readString opened ((w ++ '"' :: rest).length + 1) [] (w ++ '"' :: rest) = .ok (t, rest) := by
  have hfuel : w.length < (w ++ '"' :: rest).length + 1 := by
    rw [List.length_append]
    omega
  rw [readString_of_spells hw hfuel]
  rfl

theorem readWord?_of_mem (h : (w, v) ∈ words) (rest : List Char) : readWord? (w ++ rest) = some (v, rest) := by
  simp only [words, List.mem_cons, Prod.mk.injEq, List.not_mem_nil, or_false] at h
  obtain ⟨rfl, rfl⟩ | ⟨rfl, rfl⟩ | ⟨rfl, rfl⟩ | ⟨rfl, rfl⟩ | ⟨rfl, rfl⟩ | ⟨rfl, rfl⟩ := h <;> rfl

theorem readWord?_eq_none {d : Char} {negative : Bool} (hd : d.isDigit = true) (s : List Char) :
    readWord? (minus negative ++ d :: s) = none := by
  have hletters : ∀ c ∈ "ntfNI-".toList, c.isDigit = false := by decide
  have hne {c : Char} (hc : c.isDigit = false) : c ≠ d := by
    rintro rfl
    rw [hd] at hc
    cases hc
  have hnone : words.find? (fun w => w.1.isPrefixOf (minus negative ++ d :: s)) = none := by
    simp only [String.reduceToList, List.forall_mem_cons] at hletters
    obtain ⟨hn, ht, hf, hN, hI, hminus, -⟩ := hletters
    cases negative <;>
      simp [words, minus, List.isPrefixOf, hne hn, hne ht, hne hf, hne hN, hne hI, hne hminus]
  rw [readWord?, hnone]
  rfl

/-- A word or a number is read as such. -/
theorem readValue_scalar (h : IsScalar w v) (hrest : Ends rest) (depth : Nat) :
    readValue (fuel + 1) depth (w ++ rest) = .ok (v, rest) := by
  obtain ⟨c, x, hw, hquote, hsign, -⟩ := h.exists_cons
  have hobject : c ≠ '\x7b' := fun heq => hsign (heq ▸ by decide)
  have harray : c ≠ '[' := fun heq => hsign (heq ▸ by decide)
  have hfirst : ∀ d ∈ ['"', '\x7b', '['], ∀ r, w ++ rest ≠ d :: r := by
    rw [hw]
    simp only [List.forall_mem_cons]
    refine ⟨fun r heq => hquote ?_, fun r heq => hobject ?_, fun r heq => harray ?_, List.forall_mem_nil _⟩ <;>
      exact (List.cons.inj heq).1
  rcases h with h | h
  · exact readValue_eq_ok_iff.2 (.word hfirst (readWord?_of_mem h rest))
  · obtain ⟨negative, d, u, rfl, hd⟩ := h.exists_digit
    have hnone : readWord? (minus negative ++ d :: u ++ rest) = none := by
      rw [List.append_assoc]
      exact readWord?_eq_none hd _
    exact readValue_eq_ok_iff.2 (.number hfirst hnone (readNumber_append h hrest))

/-- Behind white space there is no other sign than the one that the first lexeme is. -/
theorem Lexes.skipBlanks_ne (h : Lexes s (l :: ls)) (hc : c ∈ signs) (hl : l ≠ .sign c) (x : List Char) :
    skipBlanks s ≠ c :: x := by
  obtain ⟨w, y, heq, hw, -⟩ := h.exists_cons
  rw [heq]
  cases hw with
  | sign _ => exact fun heq => hl (congrArg Lexeme.sign (List.cons.inj heq).1)
  | text _ =>
    intro heq
    rw [← (List.cons.inj heq).1] at hc
    exact absurd hc (by decide)
  | scalar hw =>
    obtain ⟨d, u, rfl, -, hsign, -⟩ := hw.exists_cons
    exact fun heq => hsign ((List.cons.inj heq).1 ▸ hc)

/-- Nothing that lexemes denote begins with a closing bracket. -/
theorem Denotes.exists_cons {depth : Nat} {p : Part} (h : Denotes depth ls p) :
    ∃ l ks, ls = l :: ks ∧ l ≠ .sign ']' ∧ l ≠ .sign '\x7d' := by
  induction h with
  | text | scalar | emptyList | list | emptyMap | map | member | members => exact ⟨_, _, rfl, by simp, by simp⟩
  | element _ ih => exact ih
  | elements _ _ ih _ =>
    obtain ⟨l, ks, rfl, hl⟩ := ih
    exact ⟨l, _, rfl, hl⟩

theorem finds {depth : Nat} {p : Part} (h : Denotes depth ls p) : Finds depth ls p := by
  -- on what is denoted; each lexeme shortens the text, by which the fuel lasts for a call and one inside it
  induction h with
  | @text depth t =>
    intro s ks fuel hs hks hfuel
    obtain ⟨w, x, heq, hw, hx, hlength⟩ := hs.text_cons
    obtain ⟨fuel, rfl⟩ := Nat.exists_eq_add_one.2 (Nat.zero_lt_of_lt hfuel)
    refine ⟨x, ?_, hx, hlength⟩
    rw [heq]
    exact readValue_eq_ok_iff.2 (.text (readString_text hw _ x))
  | @scalar depth v =>
    intro s ks fuel hs hks hfuel
    obtain ⟨w, x, heq, hw, hx⟩ := hs.exists_cons
    cases hw with
    | scalar hw =>
      obtain ⟨fuel, rfl⟩ := Nat.exists_eq_add_one.2 (Nat.zero_lt_of_lt hfuel)
      refine ⟨x, ?_, hx, ?_⟩
      · rw [heq, readValue_scalar hw (hx.ends hks)]
      · obtain ⟨c, u, rfl, -⟩ := hw.exists_cons
        have hlength : (skipBlanks s).length ≤ s.length := (List.dropWhile_sublist _).length_le
        rw [heq] at hlength
        simp only [List.length_append, List.length_cons] at hlength
        omega
  | emptyList =>
    intro s ks fuel hs hks hfuel
    obtain ⟨x, heq, hx, hlength⟩ := hs.sign_cons
    obtain ⟨y, hclose, hy, hshort⟩ := hx.sign_cons
    obtain ⟨fuel, rfl⟩ := Nat.exists_eq_add_one.2 (Nat.zero_lt_of_lt hfuel)
    refine ⟨y, ?_, hy, Nat.lt_trans hshort hlength⟩
    rw [heq]
    exact readValue_eq_ok_iff.2 (.emptyList hclose)
  | emptyMap =>
    intro s ks fuel hs hks hfuel
    obtain ⟨x, heq, hx, hlength⟩ := hs.sign_cons
    obtain ⟨y, hclose, hy, hshort⟩ := hx.sign_cons
    obtain ⟨fuel, rfl⟩ := Nat.exists_eq_add_one.2 (Nat.zero_lt_of_lt hfuel)
    refine ⟨y, ?_, hy, Nat.lt_trans hshort hlength⟩
    rw [heq]
    exact readValue_eq_ok_iff.2 (.emptyMap hclose)
  | @list depth ls vs h ih =>
    intro s ks fuel hs hks hfuel
    rw [List.cons_append, List.append_assoc] at hs
    obtain ⟨x, heq, hx, hlength⟩ := hs.sign_cons
    obtain ⟨l, ls, rfl, hl, -⟩ := h.exists_cons
    have hopen := hx.skipBlanks_ne (by decide) hl
    obtain ⟨fuel, rfl⟩ := Nat.exists_eq_add_one.2 (Nat.zero_lt_of_lt hfuel)
    obtain ⟨rest, hread, hrest, hshort⟩ := ih _ _ fuel [] hx (by omega)
    refine ⟨rest, ?_, hrest, Nat.lt_trans hshort hlength⟩
    rw [heq]
    exact readValue_eq_ok_iff.2 (.list hopen hread)
  | @map depth ls ms h ih =>
    intro s ks fuel hs hks hfuel
    rw [List.cons_append, List.append_assoc] at hs
    obtain ⟨x, heq, hx, hlength⟩ := hs.sign_cons
    obtain ⟨l, ls, rfl, -, hl⟩ := h.exists_cons
    have hopen := hx.skipBlanks_ne (by decide) hl
    obtain ⟨fuel, rfl⟩ := Nat.exists_eq_add_one.2 (Nat.zero_lt_of_lt hfuel)
    obtain ⟨rest, hread, hrest, hshort⟩ := ih _ _ fuel [] hx (by omega)
    refine ⟨rest, ?_, hrest, Nat.lt_trans hshort hlength⟩
    rw [foldl_put] at hread
    rw [heq]
    exact readValue_eq_ok_iff.2 (.map hopen hread)
  | element _ ih =>
    intro s ks fuel us hs hfuel
    obtain ⟨fuel, rfl⟩ := Nat.exists_eq_add_one.2 (Nat.zero_lt_of_lt hfuel)
    obtain ⟨x, hread, hx, hlength⟩ := ih _ _ fuel hs (by simp) (by omega)
    obtain ⟨rest, hclose, hrest, hshort⟩ := hx.sign_cons
    exact ⟨rest, readElements_eq_ok_iff.2 ⟨_, x, hread, .inl ⟨hclose, rfl⟩⟩, hrest, Nat.lt_trans hshort hlength⟩
  | elements _ _ ih ihs =>
    intro s ks fuel us hs hfuel
    rw [List.append_assoc, List.cons_append] at hs
    obtain ⟨fuel, rfl⟩ := Nat.exists_eq_add_one.2 (Nat.zero_lt_of_lt hfuel)
    obtain ⟨x, hread, hx, hlength⟩ := ih _ _ fuel hs (by simp) (by omega)
    obtain ⟨y, hcomma, hy, hshort⟩ := hx.sign_cons
    obtain ⟨rest, hmore, hrest, hless⟩ := ihs _ _ fuel (_ :: us) hy (by omega)
    refine ⟨rest, ?_, hrest, by omega⟩
    rw [List.reverse_cons, List.append_assoc] at hmore
    exact readElements_eq_ok_iff.2 ⟨_, x, hread, .inr ⟨y, hcomma, hmore⟩⟩
  | member _ ih =>
    intro s ks fuel kvs hs hfuel
    obtain ⟨w, x, heq, hw, hx, hlength⟩ := hs.text_cons
    obtain ⟨y, hcolon, hy, hshort⟩ := hx.sign_cons
    obtain ⟨fuel, rfl⟩ := Nat.exists_eq_add_one.2 (Nat.zero_lt_of_lt hfuel)
    obtain ⟨z, hread, hz, hless⟩ := ih _ _ fuel hy (by simp) (by omega)
    obtain ⟨rest, hclose, hrest, hfew⟩ := hz.sign_cons
    refine ⟨rest, ?_, hrest, by omega⟩
    rw [heq]
    exact readMembers_eq_ok_iff.2
      ⟨_, _, x, y, _, z, rfl, readString_text hw _ x, hcolon, hread, .inl ⟨hclose, rfl⟩⟩
  | members _ _ ih ihs =>
    intro s ks fuel kvs hs hfuel
    simp only [List.cons_append, List.append_assoc] at hs
    obtain ⟨w, x, heq, hw, hx, hlength⟩ := hs.text_cons
    obtain ⟨y, hcolon, hy, hshort⟩ := hx.sign_cons
    obtain ⟨fuel, rfl⟩ := Nat.exists_eq_add_one.2 (Nat.zero_lt_of_lt hfuel)
    obtain ⟨z, hread, hz, hless⟩ := ih _ _ fuel hy (by simp) (by omega)
    obtain ⟨z', hcomma, hz', hfew⟩ := hz.sign_cons
    obtain ⟨rest, hmore, hrest, hleast⟩ := ihs _ _ fuel (Value.put kvs _ _) hz' (by omega)
    refine ⟨rest, ?_, hrest, by omega⟩
    rw [heq]
    exact readMembers_eq_ok_iff.2
      ⟨_, _, x, y, _, z, rfl, readString_text hw _ x, hcolon, hread, .inr ⟨z', hcomma, hmore⟩⟩

end

/-- A byte order mark is no part of JSON. -/
theorem not_lexes_mark {s : List Char} {ls : List Lexeme} (h : Lexes ('\uFEFF' :: s) ls) : False := by
  have hsigns : '\uFEFF' ∉ signs := by decide
  have hwords : ∀ x ∈ words, x.1.head? ≠ some '\uFEFF' := by decide
  have hwrites {l : Lexeme} {w : List Char} (hw : l.Writes w) : w.head? ≠ some '\uFEFF' := by
    cases hw with
    | sign hc => exact fun heq => hsigns (Option.some.inj heq ▸ hc)
    | text => exact fun heq => absurd (Option.some.inj heq) (by decide)
    | scalar hw =>
      rcases hw with hword | hnumber
      · exact hwords _ hword
      · obtain ⟨negative, d, u, rfl, hd⟩ := hnumber.exists_digit
        intro heq
        cases negative with
        | true => exact absurd (Option.some.inj heq) (by decide)
        | false => exact absurd (Option.some.inj heq ▸ hd) (by decide)
  generalize hr : '\uFEFF' :: s = r at h
  cases h with
  | nil => cases hr
  | blank hc _ => exact absurd ((List.cons.inj hr).1 ▸ hc) (by decide)
  | cons hw _ =>
    obtain ⟨c, u, rfl, -⟩ := hw.exists_cons
    exact hwrites hw (congrArg some (List.cons.inj hr).1.symm)

/-- The reader takes the texts of JSON, to some depth of arrays and objects, and nothing else. -/
theorem readWithin_eq_ok_iff {depth : Nat} {s : List Char} {v : Value} :
    readWithin depth s = .ok v ↔ IsText depth s v := by
  constructor
  · intro h
    unfold readWithin at h
    split at h
    · cases h
    · split at h
      · cases h
      · next v' rest hread =>
        split at h
        · next hend =>
          cases h
          obtain ⟨ls, hdenotes, hbegins⟩ := (sound _).value hread
          have hrest : Lexes rest [] := Lexes.of_skipBlanks (hend ▸ .nil)
          refine ⟨ls, ?_, hdenotes⟩
          rw [← List.append_nil ls]
          exact hbegins.of_skipBlanks [] hrest
        · cases h
  · rintro ⟨ls, hs, hdenotes⟩
    rw [← List.append_nil ls] at hs
    obtain ⟨rest, hread, hrest, -⟩ := finds hdenotes _ _ (2 * s.length + 2) hs (by simp) (by omega)
    have hend := hrest.skipBlanks_eq_nil
    unfold readWithin
    split
    · exact (not_lexes_mark hs).elim
    · simp only [hread, hend]

theorem read_eq_ok_iff {s : List Char} {v : Value} : read s = .ok v ↔ IsText nestingLimit s v :=
  readWithin_eq_ok_iff

/-- Line ends of any kind do for a text of JSON. -/
theorem isText_unifyLines_iff {depth : Nat} {s : List Char} {v : Value} :
    IsText depth (Folder.unifyLines s) v ↔ IsText depth s v :=
  exists_congr fun _ => and_congr_left fun _ => lexes_unifyLines_iff

end LineTagger.Json
