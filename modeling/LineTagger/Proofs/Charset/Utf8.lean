import LineTagger.Charset.Utf8
import LineTagger.Proofs.Charset.Spelling
import Mathlib.Tactic.SplitIfs

/-!
UTF-8 inverts itself, both ways: decoding takes back the bytes of one character after another, and takes no
other bytes.
-/

namespace LineTagger.Charset.Utf8

theorem toNat_continuation (n : Nat) : (continuation n).toNat = 0x80 + n % 64 := by
  rw [continuation, UInt8.toNat_ofNat']
  omega

theorem le_toNat_continuation (n : Nat) : 128 ≤ (continuation n).toNat := by
  rw [toNat_continuation]
  omega

theorem follow_continuation {used bits lo hi n : Nat} {ranges : List (Nat × Nat)} {s : Bytes}
    (hlo : lo ≤ 0x80 + n % 64) (hhi : 0x80 + n % 64 ≤ hi) :
    follow used bits ((lo, hi) :: ranges) (continuation n :: s) =
      follow (used + 1) (bits * 64 + n % 64) ranges s := by
  rw [follow, toNat_continuation, if_pos ⟨hlo, hhi⟩, Nat.add_sub_cancel_left]

theorem follow_anyTail {used bits n : Nat} {ranges : List (Nat × Nat)} {s : Bytes} :
    follow used bits (anyTail :: ranges) (continuation n :: s) =
      follow (used + 1) (bits * 64 + n % 64) ranges s :=
  follow_continuation (by omega) (by omega)

theorem decodeFrom_whole (fuel pos : Nat) (acc : List Char) {b : UInt8} {s rest : Bytes}
    {ranges : List (Nat × Nat)} {bits code : Nat} (hb : 0x80 ≤ b.toNat)
    (hlead : lead? b.toNat = some (ranges, bits)) (hfollow : follow 1 bits ranges s = .whole code rest) :
    decodeFrom (fuel + 1) pos acc (b :: s) =
      decodeFrom fuel (pos + ranges.length + 1) (Char.ofNat code :: acc) rest := by
  rw [decodeFrom, if_neg (by omega), hlead]
  simp only [hfollow]

theorem lead?_two {k : Nat} (hlo : 2 ≤ k) (hhi : k < 32) : lead? (0xC0 + k) = some ([anyTail], k) := by
  rw [lead?, if_neg (by omega), if_pos (by omega), Nat.add_sub_cancel_left]

/-- The second of three bytes is in its range unless it makes a longer form or a surrogate. -/
theorem lead?_three {k x : Nat} (hk : k < 16) (hlo : 0x80 ≤ x) (hhi : x ≤ 0xBF)
    (hform : k = 0 → 0xA0 ≤ x) (hsurrogate : k = 13 → x ≤ 0x9F) :
    ∃ lo hi, lead? (0xE0 + k) = some ([(lo, hi), anyTail], k) ∧ lo ≤ x ∧ x ≤ hi := by
  rw [lead?, if_neg (by omega), if_neg (by omega), if_pos (by omega), Nat.add_sub_cancel_left]
  split_ifs with hzero hthirteen
  · exact ⟨_, _, rfl, hform (by omega), hhi⟩
  · exact ⟨_, _, rfl, hlo, hsurrogate (by omega)⟩
  · exact ⟨_, _, rfl, hlo, hhi⟩

/-- The second of four bytes is in its range unless it makes a longer form or a code point beyond the
last. -/
theorem lead?_four {k x : Nat} (hk : k < 5) (hlo : 0x80 ≤ x) (hhi : x ≤ 0xBF)
    (hform : k = 0 → 0x90 ≤ x) (hlast : k = 4 → x ≤ 0x8F) :
    ∃ lo hi, lead? (0xF0 + k) = some ([(lo, hi), anyTail, anyTail], k) ∧ lo ≤ x ∧ x ≤ hi := by
  rw [lead?, if_neg (by omega), if_neg (by omega), if_neg (by omega), if_pos (by omega),
    Nat.add_sub_cancel_left]
  split_ifs with hzero hfour
  · exact ⟨_, _, rfl, hform (by omega), hhi⟩
  · exact ⟨_, _, rfl, hlo, hlast (by omega)⟩
  · exact ⟨_, _, rfl, hlo, hhi⟩

/-- The four shapes of a character's bytes. -/
theorem encodeChar_cases (c : Char) :
    (c.toNat < 0x80 ∧ encodeChar c = [UInt8.ofNat c.toNat]) ∨
    (0x80 ≤ c.toNat ∧ c.toNat < 0x800 ∧
      encodeChar c = [UInt8.ofNat (0xC0 + c.toNat / 64), continuation c.toNat]) ∨
    (0x800 ≤ c.toNat ∧ c.toNat < 0x10000 ∧
      encodeChar c = [UInt8.ofNat (0xE0 + c.toNat / 4096), continuation (c.toNat / 64),
        continuation c.toNat]) ∨
    (0x10000 ≤ c.toNat ∧
      encodeChar c = [UInt8.ofNat (0xF0 + c.toNat / 262144), continuation (c.toNat / 4096),
        continuation (c.toNat / 64), continuation c.toNat]) := by
  unfold encodeChar
  dsimp only
  split
  · next h => exact .inl ⟨h, rfl⟩
  · split
    · exact .inr (.inl ⟨by omega, by omega, rfl⟩)
    · split
      · exact .inr (.inr (.inl ⟨by omega, by omega, rfl⟩))
      · exact .inr (.inr (.inr ⟨by omega, rfl⟩))

/-- Decoding takes the bytes of a character back, whatever comes after them. -/
theorem decodeFrom_encodeChar (c : Char) (fuel pos : Nat) (acc : List Char) (rest : Bytes) :
    decodeFrom (fuel + 1) pos acc (encodeChar c ++ rest) =
      decodeFrom fuel (pos + (encodeChar c).length) (c :: acc) rest := by
  have hvalid : c.toNat < 0xD800 ∨ 0xDFFF < c.toNat ∧ c.toNat < 0x110000 := c.valid
  obtain ⟨hc, hbytes⟩ | ⟨hlo, hhi, hbytes⟩ | ⟨hlo, hhi, hbytes⟩ | ⟨hlo, hbytes⟩ := encodeChar_cases c
  · rw [hbytes, List.singleton_append, decodeFrom, toNat_ofNat_of_lt (by omega), if_pos hc,
      Char.ofNat_toNat]
    rfl
  · have hbyte := toNat_ofNat_of_lt (n := 0xC0 + c.toNat / 64) (by omega)
    have hlead := lead?_two (k := c.toNat / 64) (by omega) (by omega)
    rw [← hbyte] at hlead
    have hfollow : follow 1 (c.toNat / 64) [anyTail] (continuation c.toNat :: rest) =
        .whole c.toNat rest := by
      rw [follow_anyTail, follow, show c.toNat / 64 * 64 + c.toNat % 64 = c.toNat by omega]
    have hwhole := decodeFrom_whole fuel pos acc (by omega) hlead hfollow
    rw [Char.ofNat_toNat] at hwhole
    rw [hbytes]
    exact hwhole
  · have hbyte := toNat_ofNat_of_lt (n := 0xE0 + c.toNat / 4096) (by omega)
    obtain ⟨lo, hi, hlead, hlow, hhigh⟩ := lead?_three (k := c.toNat / 4096)
      (x := 0x80 + c.toNat / 64 % 64) (by omega) (by omega) (by omega) (by omega) (by omega)
    rw [← hbyte] at hlead
    have hfollow : follow 1 (c.toNat / 4096) [(lo, hi), anyTail]
        (continuation (c.toNat / 64) :: continuation c.toNat :: rest) = .whole c.toNat rest := by
      rw [follow_continuation hlow hhigh, follow_anyTail, follow]
      congr 1
      omega
    have hwhole := decodeFrom_whole fuel pos acc (by omega) hlead hfollow
    rw [Char.ofNat_toNat] at hwhole
    rw [hbytes]
    exact hwhole
  · have hbyte := toNat_ofNat_of_lt (n := 0xF0 + c.toNat / 262144) (by omega)
    obtain ⟨lo, hi, hlead, hlow, hhigh⟩ := lead?_four (k := c.toNat / 262144)
      (x := 0x80 + c.toNat / 4096 % 64) (by omega) (by omega) (by omega) (by omega) (by omega)
    rw [← hbyte] at hlead
    have hfollow : follow 1 (c.toNat / 262144) [(lo, hi), anyTail, anyTail]
        (continuation (c.toNat / 4096) :: continuation (c.toNat / 64) :: continuation c.toNat ::
          rest) = .whole c.toNat rest := by
      rw [follow_continuation hlow hhigh, follow_anyTail, follow_anyTail, follow]
      congr 1
      omega
    have hwhole := decodeFrom_whole fuel pos acc (by omega) hlead hfollow
    rw [Char.ofNat_toNat] at hwhole
    rw [hbytes]
    exact hwhole

def spelling : Spelling := fun c => some (encodeChar c)

theorem plain_spelling : spelling.Plain := by
  refine ⟨fun {c} hc => ?_, fun {c bs} hc hbytes => ?_⟩
  · rw [spelling, encodeChar]
    exact congrArg some (if_pos hc)
  · have hvalid : c.toNat < 0xD800 ∨ 0xDFFF < c.toNat ∧ c.toNat < 0x110000 := c.valid
    obtain rfl := Option.some.inj hbytes
    obtain ⟨h, -⟩ | ⟨hlo, hhi, h⟩ | ⟨hlo, hhi, h⟩ | ⟨hlo, h⟩ := encodeChar_cases c
    · omega
    all_goals
      rw [h]
      refine ⟨List.cons_ne_nil _ _, ?_⟩
      rw [List.forall_mem_cons, toNat_ofNat_of_lt (by omega)]
      exact ⟨by omega, by simp [le_toNat_continuation]⟩

theorem spells_encode (s : List Char) : spelling.Spells s (encode s) := by
  induction s with
  | nil => exact .nil
  | cons c s ih => exact .cons rfl ih

theorem encode_of_spells {s : List Char} {bs : Bytes} (h : spelling.Spells s bs) : encode s = bs := by
  induction h with
  | nil => rfl
  | cons hc _ ih => rw [encode, List.flatMap_cons, Option.some.inj hc, ← ih, encode]

/-- No character takes more fuel than it has bytes. -/
theorem length_le_of_spells {s : List Char} {bs : Bytes} (h : spelling.Spells s bs) :
    s.length ≤ bs.length := by
  induction h with
  | nil => exact Nat.le_refl 0
  | cons hc _ ih =>
    have hpos := List.length_pos_iff.2 (plain_spelling.ne_nil hc)
    rw [List.length_cons, List.length_append]
    omega

theorem decodeFrom_of_spells {s : List Char} {bs : Bytes} (h : spelling.Spells s bs) {fuel : Nat}
    (hfuel : s.length ≤ fuel) (pos : Nat) (acc : List Char) :
    decodeFrom fuel pos acc bs = .ok (acc.reverse ++ s) := by
  induction h generalizing fuel pos acc with
  | nil =>
    rw [List.append_nil]
    cases fuel <;> rfl
  | cons hc _ ih =>
    obtain rfl := Option.some.inj hc
    obtain ⟨fuel, rfl⟩ : ∃ k, fuel = k + 1 := ⟨fuel - 1, by simp at hfuel; omega⟩
    rw [decodeFrom_encodeChar, ih (by simpa using hfuel), List.reverse_cons, List.append_assoc]
    rfl

theorem decode_of_spells {s : List Char} {bs : Bytes} (h : spelling.Spells s bs) :
    decode bs = .ok s :=
  decodeFrom_of_spells h (length_le_of_spells h) 0 []

theorem continuation_eq {b : UInt8} {n : Nat} (hlo : 0x80 ≤ b.toNat) (hn : n % 64 = b.toNat - 0x80) :
    continuation n = b := by
  rw [← UInt8.toNat_inj, toNat_continuation]
  omega

theorem follow_eq_whole_iff {used bits lo hi code : Nat} {ranges : List (Nat × Nat)} {s rest : Bytes} :
    follow used bits ((lo, hi) :: ranges) s = .whole code rest ↔
      ∃ b r, s = b :: r ∧ (lo ≤ b.toNat ∧ b.toNat ≤ hi) ∧
        follow (used + 1) (bits * 64 + (b.toNat - 0x80)) ranges r = .whole code rest := by
  cases s with
  | nil => simp [follow]
  | cons b r =>
    rw [follow]
    constructor
    · intro h
      split at h
      · next hb => exact ⟨b, r, rfl, hb, h⟩
      · cases h
    · rintro ⟨_, _, heq, hb, h⟩
      cases heq
      rwa [if_pos hb]

theorem follow_nil_eq_whole {used bits code : Nat} {s rest : Bytes}
    (h : follow used bits [] s = .whole code rest) : code = bits ∧ rest = s := by
  cases h
  exact ⟨rfl, rfl⟩

/-- The first bytes of two, three and four, with the ranges of the second. -/
theorem lead?_cases {n bits : Nat} {ranges : List (Nat × Nat)} (h : lead? n = some (ranges, bits)) :
    (0xC2 ≤ n ∧ n < 0xE0 ∧ ranges = [anyTail] ∧ bits = n - 0xC0) ∨
    (0xE0 ≤ n ∧ n < 0xF0 ∧ bits = n - 0xE0 ∧ ∃ lo hi, ranges = [(lo, hi), anyTail] ∧ 0x80 ≤ lo ∧ hi ≤ 0xBF ∧
      (n = 0xE0 → 0xA0 ≤ lo) ∧ (n = 0xED → hi ≤ 0x9F)) ∨
    (0xF0 ≤ n ∧ n < 0xF5 ∧ bits = n - 0xF0 ∧ ∃ lo hi, ranges = [(lo, hi), anyTail, anyTail] ∧ 0x80 ≤ lo ∧
      hi ≤ 0xBF ∧ (n = 0xF0 → 0x90 ≤ lo) ∧ (n = 0xF4 → hi ≤ 0x8F)) := by
  unfold lead? at h
  dsimp only at h
  split_ifs at h
  · obtain ⟨rfl, rfl⟩ := Prod.mk.inj (Option.some.inj h)
    exact .inl ⟨by omega, by omega, rfl, rfl⟩
  iterate 3
    · obtain ⟨rfl, rfl⟩ := Prod.mk.inj (Option.some.inj h)
      exact .inr (.inl ⟨by omega, by omega, rfl, _, _, rfl, by decide, by decide, by omega, by omega⟩)
  iterate 3
    · obtain ⟨rfl, rfl⟩ := Prod.mk.inj (Option.some.inj h)
      exact .inr (.inr ⟨by omega, by omega, rfl, _, _, rfl, by decide, by decide, by omega, by omega⟩)

/-- Bytes that are taken for a character are those that it is written with. -/
theorem encodeChar_of_follow {b : UInt8} {s rest : Bytes} {ranges : List (Nat × Nat)} {bits code : Nat}
    (hlead : lead? b.toNat = some (ranges, bits)) (hfollow : follow 1 bits ranges s = .whole code rest) :
    encodeChar (Char.ofNat code) ++ rest = b :: s := by
  have hb : b.toNat < 256 := b.toNat_lt
  have hfirst {n : Nat} (hn : n = b.toNat) : UInt8.ofNat n = b := by rw [hn, UInt8.ofNat_toNat]
  obtain ⟨hlo, hhi, rfl, hbits⟩ | ⟨hlo, hhi, hbits, lo, hi, rfl, hrlo, hrhi, hform, hsurrogate⟩ |
    ⟨hlo, hhi, hbits, lo, hi, rfl, hrlo, hrhi, hform, hlast⟩ := lead?_cases hlead
  · obtain ⟨x, r, rfl, ⟨hxlo, hxhi⟩, hrest⟩ := follow_eq_whole_iff.1 hfollow
    obtain ⟨hcode, rfl⟩ := follow_nil_eq_whole hrest
    rw [encodeChar, toNat_charOfNat (by omega)]
    rw [if_neg (by omega), if_pos (by omega), hfirst (by omega), continuation_eq hxlo (by omega)]
    rfl
  · obtain ⟨x, r, rfl, ⟨hxlo, hxhi⟩, hrest⟩ := follow_eq_whole_iff.1 hfollow
    obtain ⟨y, r, rfl, ⟨hylo, hyhi⟩, hrest⟩ := follow_eq_whole_iff.1 hrest
    obtain ⟨hcode, rfl⟩ := follow_nil_eq_whole hrest
    rw [encodeChar, toNat_charOfNat (by omega)]
    rw [if_neg (by omega), if_neg (by omega), if_pos (by omega), hfirst (by omega),
      continuation_eq (b := x) (by omega) (by omega), continuation_eq hylo (by omega)]
    rfl
  · obtain ⟨x, r, rfl, ⟨hxlo, hxhi⟩, hrest⟩ := follow_eq_whole_iff.1 hfollow
    obtain ⟨y, r, rfl, ⟨hylo, hyhi⟩, hrest⟩ := follow_eq_whole_iff.1 hrest
    obtain ⟨z, r, rfl, ⟨hzlo, hzhi⟩, hrest⟩ := follow_eq_whole_iff.1 hrest
    obtain ⟨hcode, rfl⟩ := follow_nil_eq_whole hrest
    rw [encodeChar, toNat_charOfNat (by omega)]
    rw [if_neg (by omega), if_neg (by omega), if_neg (by omega), hfirst (by omega),
      continuation_eq (b := x) (by omega) (by omega), continuation_eq hylo (by omega),
      continuation_eq hzlo (by omega)]
    rfl

/-- What decodes is what the text is written with. -/
theorem encode_of_decodeFrom {fuel pos : Nat} {acc t : List Char} {bs : Bytes} (hfuel : bs.length ≤ fuel)
    (h : decodeFrom fuel pos acc bs = .ok t) : ∃ s, t = acc.reverse ++ s ∧ encode s = bs := by
  induction fuel generalizing pos acc bs with
  | zero =>
    obtain rfl := List.eq_nil_of_length_eq_zero (Nat.le_zero.1 hfuel)
    cases h
    exact ⟨[], (List.append_nil _).symm, rfl⟩
  | succ fuel ih =>
    cases bs with
    | nil =>
      cases h
      exact ⟨[], (List.append_nil _).symm, rfl⟩
    | cons b s =>
      have hchar {c : Char} {rest : Bytes} {pos : Nat} (hc : encodeChar c ++ rest = b :: s)
          (hrest : rest.length ≤ fuel) (h : decodeFrom fuel pos (c :: acc) rest = .ok t) :
          ∃ s', t = acc.reverse ++ s' ∧ encode s' = b :: s := by
        obtain ⟨s', rfl, rfl⟩ := ih hrest h
        exact ⟨c :: s', by simp, hc⟩
      rw [decodeFrom] at h
      split at h
      · next hlow =>
        refine hchar ?_ (by simpa using hfuel) h
        rw [encodeChar, toNat_charOfNat (by omega)]
        rw [if_pos hlow, UInt8.ofNat_toNat]
        rfl
      · split at h
        · cases h
        · next ranges bits hlead =>
          split at h
          · next code rest hfollow =>
            have hwritten := encodeChar_of_follow hlead hfollow
            refine hchar hwritten ?_ h
            have hlength := congrArg List.length hwritten
            have hpos := List.length_pos_iff.2 (plain_spelling.ne_nil (c := Char.ofNat code) rfl)
            simp only [List.length_append, List.length_cons] at hlength hfuel
            omega
          · cases h
          · cases h

theorem decode_eq_ok_iff {s : List Char} {bs : Bytes} : decode bs = .ok s ↔ encode s = bs := by
  constructor
  · intro h
    obtain ⟨t, rfl, ht⟩ := encode_of_decodeFrom (Nat.le_refl _) h
    exact ht
  · rintro rfl
    exact decode_of_spells (spells_encode s)

theorem encode_injective : Function.Injective encode := by
  intro s t h
  have hs := decode_eq_ok_iff.2 h
  rw [decode_eq_ok_iff.2 rfl] at hs
  exact (Except.ok.inj hs).symm

end LineTagger.Charset.Utf8
