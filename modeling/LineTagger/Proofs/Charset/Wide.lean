import LineTagger.Proofs.Charset.Refusal
import LineTagger.Proofs.Charset.Spelling
import Mathlib.Data.List.Basic

/-!
UTF-16 and UTF-32 in one order invert themselves, both ways: the bytes of a text are decoded to it, and
no other bytes are.
-/

namespace LineTagger.Charset

namespace ByteOrder

variable (o : ByteOrder)

theorem arrange_arrange (bs : Bytes) : o.arrange (o.arrange bs) = bs := by
  cases o with
  | little => rfl
  | big => exact List.reverse_reverse bs

theorem unit_arrange (bs : Bytes) :
    o.unit (o.arrange bs) = bs.foldr (fun b n => b.toNat + 256 * n) 0 := by
  rw [unit, arrange_arrange]

theorem exists_arrange (bs : Bytes) : ∃ cs, cs.length = bs.length ∧ o.arrange cs = bs := by
  refine ⟨o.arrange bs, ?_, o.arrange_arrange bs⟩
  cases o with
  | little => rfl
  | big => exact List.length_reverse

end ByteOrder

namespace Utf16

variable {o : ByteOrder}

theorem unitBytes_eq {n : Nat} (h : n < 65536) : ∃ a b, unitBytes o n = [a, b] ∧ o.unit [a, b] = n := by
  obtain ⟨a, b, hbytes⟩ : ∃ a b, unitBytes o n = [a, b] := by
    cases o <;> exact ⟨_, _, rfl⟩
  refine ⟨a, b, hbytes, ?_⟩
  rw [← hbytes, unitBytes, o.unit_arrange, List.foldr_cons, List.foldr_cons, List.foldr_nil,
    toNat_ofNat_of_lt (by omega), toNat_ofNat_of_lt (by omega)]
  omega

theorem unitBytes_unit (a b : UInt8) : unitBytes o (o.unit [a, b]) = [a, b] ∧ o.unit [a, b] < 65536 := by
  obtain ⟨cs, hlength, hcs⟩ := o.exists_arrange [a, b]
  obtain ⟨x, y, rfl⟩ := List.length_eq_two.1 hlength
  have hx := x.toNat_lt
  have hy := y.toNat_lt
  rw [← hcs, o.unit_arrange, unitBytes, List.foldr_cons, List.foldr_cons, List.foldr_nil]
  refine ⟨?_, by omega⟩
  rw [show (x.toNat + 256 * (y.toNat + 256 * 0)) % 256 = x.toNat by omega,
    show (x.toNat + 256 * (y.toNat + 256 * 0)) / 256 = y.toNat by omega, UInt8.ofNat_toNat,
    UInt8.ofNat_toNat]

section

variable {a b d e : UInt8} {n m : Nat} (pos : Nat) (acc : List Char) (rest : Bytes)

theorem decodeFrom_unit (hn : o.unit [a, b] = n) (hlow : isLow n = false) (hhigh : isHigh n = false) :
    decodeFrom o pos acc (a :: b :: rest) = decodeFrom o (pos + 2) (Char.ofNat n :: acc) rest := by
  subst hn
  conv_lhs => unfold decodeFrom
  simp only [hlow, hhigh, Bool.false_eq_true, if_false]

theorem decodeFrom_pair (hn : o.unit [a, b] = n) (hm : o.unit [d, e] = m) (hfirst : isLow n = false)
    (hhigh : isHigh n = true) (hlow : isLow m = true) :
    decodeFrom o pos acc (a :: b :: d :: e :: rest) =
      decodeFrom o (pos + 4)
        (Char.ofNat (0x10000 + (n - 0xD800) * 0x400 + (m - 0xDC00)) :: acc) rest := by
  subst hn hm
  rw [decodeFrom]
  simp [hfirst, hhigh, hlow]

end

/-- Decoding takes the bytes of a character back, whatever comes after them. -/
theorem decodeFrom_encodeChar (c : Char) (pos : Nat) (acc : List Char) (rest : Bytes) :
    decodeFrom o pos acc (encodeChar o c ++ rest) =
      decodeFrom o (pos + (encodeChar o c).length) (c :: acc) rest := by
  have hvalid : c.toNat < 0xD800 ∨ 0xDFFF < c.toNat ∧ c.toNat < 0x110000 := c.valid
  unfold encodeChar
  dsimp only
  split
  · obtain ⟨a, b, hbytes, hunit⟩ := unitBytes_eq (o := o) (n := c.toNat) (by omega)
    have hlow : isLow c.toNat = false := by simp [isLow]; omega
    have hhigh : isHigh c.toNat = false := by simp [isHigh]; omega
    have hnext := decodeFrom_unit pos acc rest hunit hlow hhigh
    rw [Char.ofNat_toNat] at hnext
    rw [hbytes]
    exact hnext
  · obtain ⟨high, hhigh⟩ : ∃ n, n = 0xD800 + (c.toNat - 0x10000) / 0x400 := ⟨_, rfl⟩
    obtain ⟨low, hlow⟩ : ∃ m, m = 0xDC00 + (c.toNat - 0x10000) % 0x400 := ⟨_, rfl⟩
    obtain ⟨a, b, hfirst, hn⟩ := unitBytes_eq (o := o) (n := high) (by omega)
    obtain ⟨d, e, hsecond, hm⟩ := unitBytes_eq (o := o) (n := low) (by omega)
    have hnext := decodeFrom_pair pos acc rest hn hm (by simp [isLow]; omega)
      (by simp [isHigh]; omega) (by simp [isLow]; omega)
    have hcode : 0x10000 + (high - 0xD800) * 0x400 + (low - 0xDC00) = c.toNat := by omega
    rw [hcode, Char.ofNat_toNat] at hnext
    rw [← hhigh, ← hlow, hfirst, hsecond]
    exact hnext

theorem decodeFrom_encode (s : List Char) (pos : Nat) (acc : List Char) :
    decodeFrom o pos acc (encode o s) = .ok (acc.reverse ++ s) := by
  induction s generalizing pos acc with
  | nil => rw [List.append_nil]; rfl
  | cons c s ih =>
    have hfirst := decodeFrom_encodeChar (o := o) c pos acc (encode o s)
    rw [ih, List.reverse_cons, List.append_assoc] at hfirst
    exact hfirst

/-- A character of the basic plane is encoded as its unit. -/
theorem encodeChar_of_unit {a b : UInt8} (hlow : isLow (o.unit [a, b]) = false)
    (hhigh : isHigh (o.unit [a, b]) = false) :
    encodeChar o (Char.ofNat (o.unit [a, b])) = [a, b] := by
  obtain ⟨hbytes, hlt⟩ := unitBytes_unit (o := o) a b
  simp only [isLow, isHigh, Bool.and_eq_false_iff, decide_eq_false_iff_not] at hlow hhigh
  rw [encodeChar, toNat_charOfNat (by omega)]
  dsimp only
  rw [if_pos (by omega), hbytes]

/-- Any other character is encoded as its pair of surrogates. -/
theorem encodeChar_of_pair {a b d e : UInt8} (hhigh : isHigh (o.unit [a, b]) = true)
    (hlow : isLow (o.unit [d, e]) = true) :
    encodeChar o (Char.ofNat (0x10000 + (o.unit [a, b] - 0xD800) * 0x400 + (o.unit [d, e] - 0xDC00))) =
      [a, b, d, e] := by
  obtain ⟨hfirst, -⟩ := unitBytes_unit (o := o) a b
  obtain ⟨hsecond, -⟩ := unitBytes_unit (o := o) d e
  generalize o.unit [a, b] = n, o.unit [d, e] = m at hhigh hlow hfirst hsecond ⊢
  simp only [isLow, isHigh, Bool.and_eq_true, decide_eq_true_eq] at hhigh hlow
  rw [encodeChar, toNat_charOfNat (by omega)]
  dsimp only
  rw [if_neg (by omega), show 0xD800 + _ = n by omega, show 0xDC00 + _ = m by omega, hfirst, hsecond]
  rfl

theorem encode_of_decodeFrom {bs : Bytes} {pos : Nat} {acc t : List Char}
    (h : decodeFrom o pos acc bs = .ok t) : ∃ s, t = acc.reverse ++ s ∧ encode o s = bs := by
  -- on the run of the decoder: each step takes the bytes of one character
  fun_induction decodeFrom o pos acc bs
  case case1 acc => exact ⟨[], by rw [List.append_nil]; exact (Except.ok.inj h).symm, rfl⟩
  case case2 | case3 | case5 | case6 => cases h
  case case4 a b n hfirst hhigh d e rest m hlow ih =>
    obtain ⟨s, rfl, hs⟩ := ih h
    refine ⟨_ :: s, by rw [List.reverse_cons, List.append_assoc]; rfl, ?_⟩
    rw [encode, List.flatMap_cons, encodeChar_of_pair hhigh hlow, ← hs]
    rfl
  case case7 a b rest n hlow hhigh ih =>
    obtain ⟨s, rfl, hs⟩ := ih h
    refine ⟨_ :: s, by rw [List.reverse_cons, List.append_assoc]; rfl, ?_⟩
    rw [encode, List.flatMap_cons, encodeChar_of_unit (by simpa using hlow) (by simpa using hhigh),
      ← hs]
    rfl

end Utf16

namespace Utf32

variable {o : ByteOrder}

theorem encodeChar_eq (c : Char) :
    ∃ a b d e, encodeChar o c = [a, b, d, e] ∧ o.unit [a, b, d, e] = c.toNat := by
  have hvalid : c.toNat < 0xD800 ∨ 0xDFFF < c.toNat ∧ c.toNat < 0x110000 := c.valid
  obtain ⟨a, b, d, e, hbytes⟩ : ∃ a b d e, encodeChar o c = [a, b, d, e] := by
    cases o <;> exact ⟨_, _, _, _, rfl⟩
  refine ⟨a, b, d, e, hbytes, ?_⟩
  rw [← hbytes, encodeChar, o.unit_arrange, List.foldr_cons, List.foldr_cons, List.foldr_cons,
    List.foldr_cons, List.foldr_nil, toNat_ofNat_of_lt (by omega), toNat_ofNat_of_lt (by omega),
    toNat_ofNat_of_lt (by omega)]
  simp only [UInt8.toNat_zero]
  omega

theorem encodeChar_of_unit {a b d e : UInt8}
    (hscalar : ¬(0xD800 ≤ o.unit [a, b, d, e] ∧ o.unit [a, b, d, e] < 0xE000))
    (hlast : ¬o.unit [a, b, d, e] ≥ 0x110000) :
    encodeChar o (Char.ofNat (o.unit [a, b, d, e])) = [a, b, d, e] := by
  obtain ⟨cs, hlength, hcs⟩ := o.exists_arrange [a, b, d, e]
  obtain ⟨x, y, z, w, rfl⟩ : ∃ x y z w, cs = [x, y, z, w] := by
    match cs, hlength with
    | [x, y, z, w], _ => exact ⟨x, y, z, w, rfl⟩
  have hx := x.toNat_lt
  have hy := y.toNat_lt
  have hz := z.toNat_lt
  obtain ⟨n, hn⟩ : ∃ n, n = x.toNat + 256 * (y.toNat + 256 * (z.toNat + 256 * w.toNat)) := ⟨_, rfl⟩
  have hunit : o.unit [a, b, d, e] = n := by
    rw [← hcs, o.unit_arrange, hn]
    rfl
  rw [hunit] at hscalar hlast ⊢
  -- a code point takes no more than three bytes
  have hw : w = 0 := UInt8.toNat_inj.1 (by rw [UInt8.toNat_zero]; omega)
  subst hw
  rw [UInt8.toNat_zero] at hn
  rw [encodeChar, toNat_charOfNat (by omega), show n % 256 = x.toNat by omega,
    show n / 256 % 256 = y.toNat by omega, show n / 65536 = z.toNat by omega, UInt8.ofNat_toNat,
    UInt8.ofNat_toNat, UInt8.ofNat_toNat, hcs]

theorem decodeFrom_encode (s : List Char) (pos : Nat) (acc : List Char) :
    decodeFrom o pos acc (encode o s) = .ok (acc.reverse ++ s) := by
  induction s generalizing pos acc with
  | nil => rw [List.append_nil]; rfl
  | cons c s ih =>
    have hvalid : c.toNat < 0xD800 ∨ 0xDFFF < c.toNat ∧ c.toNat < 0x110000 := c.valid
    obtain ⟨a, b, d, e, hbytes, hunit⟩ := encodeChar_eq (o := o) c
    rw [encode, List.flatMap_cons, hbytes, ← encode, List.cons_append, List.cons_append,
      List.cons_append, List.singleton_append, decodeFrom, hunit]
    rw [if_neg (by omega), if_neg (by omega), Char.ofNat_toNat, ih, List.reverse_cons,
      List.append_assoc]
    rfl

theorem encode_of_decodeFrom {bs : Bytes} {pos : Nat} {acc t : List Char}
    (h : decodeFrom o pos acc bs = .ok t) : ∃ s, t = acc.reverse ++ s ∧ encode o s = bs := by
  fun_induction decodeFrom o pos acc bs
  case case1 acc => exact ⟨[], by rw [List.append_nil]; exact (Except.ok.inj h).symm, rfl⟩
  case case2 | case3 | case5 => cases h
  case case4 a b d e rest n hscalar hlast ih =>
    obtain ⟨s, rfl, hs⟩ := ih h
    refine ⟨_ :: s, by rw [List.reverse_cons, List.append_assoc]; rfl, ?_⟩
    rw [encode, List.flatMap_cons, encodeChar_of_unit hscalar hlast, ← hs]
    rfl

end Utf32

end LineTagger.Charset
