import LineTagger.Charset.SingleByte
import LineTagger.Proofs.Charset.Spelling

/-!
Character sets of one byte invert themselves: the byte of a character is one whose character it is.
-/

namespace LineTagger.Charset.SingleByte

theorem length_upper_le (t : SingleByte) : t.upper.length ≤ 128 := by
  cases t with
  | ascii => exact Nat.zero_le 128
  | latin1 => exact Nat.le_of_eq List.length_range'
  | cp1252 | latin9 | koi8r => exact Nat.le_of_eq rfl

/-- A character beyond ASCII has the byte at its place in the table. -/
theorem byte?_eq_some {t : SingleByte} {c : Char} {b : UInt8} (h : t.byte? c = some b)
    (hc : 128 ≤ c.toNat) : ∃ i, t.upper[i]? = some c.toNat ∧ b.toNat = 128 + i := by
  rw [byte?, if_neg (by omega), Option.map_eq_some_iff] at h
  obtain ⟨i, hfind, rfl⟩ := h
  obtain ⟨hi, hentry, -⟩ := List.findIdx?_eq_some_iff_getElem.1 hfind
  have hlength := t.length_upper_le
  refine ⟨i, ?_, Charset.toNat_ofNat_of_lt (by omega)⟩
  rw [List.getElem?_eq_getElem hi, of_decide_eq_true hentry]

theorem byte?_of_lt (t : SingleByte) {c : Char} (hc : c.toNat < 128) :
    t.byte? c = some (UInt8.ofNat c.toNat) := by
  rw [byte?, if_pos hc]

theorem char?_of_byte? {t : SingleByte} {c : Char} {b : UInt8} (h : t.byte? c = some b) :
    t.char? b = some c := by
  rcases Nat.lt_or_ge c.toNat 128 with hlow | hhigh
  · rw [byte?_of_lt t hlow, Option.some.injEq] at h
    rw [← h, char?, Charset.toNat_ofNat_of_lt (by omega), if_pos hlow, Char.ofNat_toNat]
  · obtain ⟨i, hentry, hb⟩ := byte?_eq_some h hhigh
    rw [char?, hb, if_neg (by omega), Nat.add_sub_cancel_left, hentry]
    split
    · next hnone => simp at hnone
    · next hzero => simp at hzero; omega
    · next n _ hn =>
      rw [← Option.some.inj hn, Char.ofNat_toNat]

def spelling (t : SingleByte) : Spelling := fun c => (t.byte? c).map ([·])

theorem plain_spelling (t : SingleByte) : t.spelling.Plain := by
  refine ⟨fun {c} hc => ?_, fun {c bs} hc hbytes => ?_⟩
  · rw [spelling, byte?_of_lt t hc, Option.map_some]
  · obtain ⟨b, hb, rfl⟩ := Option.map_eq_some_iff.1 hbytes
    obtain ⟨i, -, hi⟩ := byte?_eq_some hb hc
    refine ⟨List.cons_ne_nil _ _, ?_⟩
    rw [List.forall_mem_singleton]
    omega

theorem encodeFrom_of_spells {t : SingleByte} {s : List Char} {bs : Bytes}
    (h : t.spelling.Spells s bs) (pos : Nat) (acc : Bytes) :
    t.encodeFrom pos acc s = .ok (acc.reverse ++ bs) := by
  induction h generalizing pos acc with
  | nil => rw [List.append_nil, encodeFrom]
  | cons hc _ ih =>
    obtain ⟨b, hb, rfl⟩ := Option.map_eq_some_iff.1 hc
    simp only [encodeFrom, hb, ih, List.reverse_cons, List.append_assoc]

theorem spells_of_encodeFrom {t : SingleByte} {s : List Char} {pos : Nat} {acc out : Bytes}
    (h : t.encodeFrom pos acc s = .ok out) : ∃ bs, t.spelling.Spells s bs ∧ out = acc.reverse ++ bs := by
  induction s generalizing pos acc with
  | nil => exact ⟨[], .nil, by rw [List.append_nil]; exact (Except.ok.inj h).symm⟩
  | cons c s ih =>
    cases hb : t.byte? c with
    | none => simp [encodeFrom, hb] at h
    | some b =>
      simp only [encodeFrom, hb] at h
      obtain ⟨bs, hbs, rfl⟩ := ih h
      have hc : t.spelling c = some [b] := by rw [spelling, hb, Option.map_some]
      exact ⟨b :: bs, .cons hc hbs, by rw [List.reverse_cons, List.append_assoc]; rfl⟩

theorem decodeFrom_of_spells {t : SingleByte} {s : List Char} {bs : Bytes}
    (h : t.spelling.Spells s bs) (pos : Nat) (acc : List Char) :
    t.decodeFrom pos acc bs = .ok (acc.reverse ++ s) := by
  induction h generalizing pos acc with
  | nil => rw [List.append_nil, decodeFrom]
  | cons hc _ ih =>
    obtain ⟨b, hb, rfl⟩ := Option.map_eq_some_iff.1 hc
    simp only [List.singleton_append, decodeFrom, char?_of_byte? hb, ih, List.reverse_cons,
      List.append_assoc]

end LineTagger.Charset.SingleByte
