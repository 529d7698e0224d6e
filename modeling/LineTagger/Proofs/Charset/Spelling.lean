import LineTagger.Charset.Bytes

/-!
Texts spelled as bytes, one character after another, and what a text and its bytes have in common
where the characters of ASCII stand for themselves.
-/

namespace LineTagger.Charset

theorem toNat_ofNat_of_lt {n : Nat} (h : n < 256) : (UInt8.ofNat n).toNat = n := by
  rw [UInt8.toNat_ofNat', Nat.mod_eq_of_lt h]

theorem toNat_charOfNat {n : Nat} (h : n < 0xD800 ∨ 0xDFFF < n ∧ n < 0x110000) :
    (Char.ofNat n).toNat = n := by
  have hvalid : n.isValidChar := h
  rw [Char.ofNat, dif_pos hvalid]
  rfl

/-- The bytes of a character, if it has any. -/
abbrev Spelling := Char → Option Bytes

namespace Spelling

/-- Bytes that are those of the characters of a text, in their order. -/
inductive Spells (w : Spelling) : List Char → Bytes → Prop where
  | nil : Spells w [] []
  | cons {c : Char} {s : List Char} {bs rest : Bytes} (h : w c = some bs)
      (hrest : Spells w s rest) : Spells w (c :: s) (bs ++ rest)

/-- A character of ASCII is its own byte, and any other has bytes from 128 on only. -/
structure Plain (w : Spelling) : Prop where
  ascii {c : Char} (h : c.toNat < 128) : w c = some [UInt8.ofNat c.toNat]
  other {c : Char} {bs : Bytes} (h : 128 ≤ c.toNat) (hbytes : w c = some bs) :
    bs ≠ [] ∧ ∀ b ∈ bs, 128 ≤ b.toNat

variable {w : Spelling}

theorem Spells.append {s t : List Char} {bs cs : Bytes} (hs : Spells w s bs) (ht : Spells w t cs) :
    Spells w (s ++ t) (bs ++ cs) := by
  induction hs with
  | nil => exact ht
  | cons h _ ih =>
    rw [List.append_assoc]
    exact .cons h ih

/-- The bytes of one character hold the byte of a character of ASCII just when they are it. -/
theorem Plain.mem_iff {c d : Char} {bs : Bytes} (hw : Plain w) (hd : w d = some bs)
    (hc : c.toNat < 128) : UInt8.ofNat c.toNat ∈ bs ↔ c = d := by
  rcases Nat.lt_or_ge d.toNat 128 with hlow | hhigh
  · rw [hw.ascii hlow, Option.some.injEq] at hd
    rw [← hd, List.mem_singleton]
    refine ⟨fun h => ?_, fun h => h ▸ rfl⟩
    have hnat := congrArg UInt8.toNat h
    rw [toNat_ofNat_of_lt (by omega), toNat_ofNat_of_lt (by omega)] at hnat
    exact Char.toNat_inj.1 hnat
  · refine ⟨fun h => ?_, fun h => absurd (h ▸ hc) (by omega)⟩
    have hbyte := (hw.other hhigh hd).2 _ h
    rw [toNat_ofNat_of_lt (by omega)] at hbyte
    omega

theorem Plain.ne_nil {c : Char} {bs : Bytes} (hw : Plain w) (hc : w c = some bs) : bs ≠ [] := by
  rcases Nat.lt_or_ge c.toNat 128 with hlow | hhigh
  · rw [hw.ascii hlow, Option.some.injEq] at hc
    rw [← hc]
    exact List.cons_ne_nil _ _
  · exact (hw.other hhigh hc).1

variable {s : List Char} {bs : Bytes}

/-- A text holds a character of ASCII just when its bytes hold the byte of that character. -/
theorem Plain.mem_spells (hw : Plain w) (h : Spells w s bs) {c : Char} (hc : c.toNat < 128) :
    UInt8.ofNat c.toNat ∈ bs ↔ c ∈ s := by
  induction h with
  | nil => simp
  | cons hd _ ih => rw [List.mem_append, List.mem_cons, hw.mem_iff hd hc, ih]

theorem Plain.spells_eq_nil_iff (hw : Plain w) (h : Spells w s bs) : bs = [] ↔ s = [] := by
  cases h with
  | nil => simp
  | cons hd _ => simp [hw.ne_nil hd]

theorem Plain.getLast?_spells (hw : Plain w) (h : Spells w s bs) {c : Char} (hc : c.toNat < 128)
    (hlast : bs.getLast? = some (UInt8.ofNat c.toNat)) : s.getLast? = some c := by
  induction h with
  | nil => simp at hlast
  | @cons d s bs rest hd hrest ih =>
    rw [List.getLast?_append] at hlast
    cases hend : rest.getLast? with
    | none =>
      have hs : s = [] := (hw.spells_eq_nil_iff hrest).1 (List.getLast?_eq_none_iff.1 hend)
      rw [hend, Option.none_or] at hlast
      rw [hs, (hw.mem_iff hd hc).1 (List.mem_of_getLast? hlast)]
      rfl
    | some b =>
      rw [hend, Option.some_or] at hlast
      have hs := ih (hend.trans hlast)
      rw [List.getLast?_cons, hs]
      rfl

theorem Plain.spells_lineFeed (hw : Plain w) (h : Spells w s bs) : Spells w (s ++ ['\n']) (bs ++ [10]) :=
  h.append (.cons (hw.ascii (by decide)) .nil)

end Spelling

end LineTagger.Charset
