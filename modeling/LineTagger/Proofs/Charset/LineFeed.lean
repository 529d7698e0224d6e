import LineTagger.Connection
import LineTagger.Proofs.Charset.Refusal
import LineTagger.Proofs.Charset.Spelled
import LineTagger.Proofs.Charset.Wide

/-!
How each codec writes the end of a line: the byte 10 alone, or among zero bytes as a unit of several
bytes. In units that byte may be part of any other character too, and then a line that is cut at it is
not decoded to its text.
-/

namespace LineTagger

open Charset Connection

namespace Codec

/-- The zero bytes before and after the byte 10 of a line feed. -/
def newline : Codec → Bytes × Bytes
  | .utf16 (some .big) => ([0], [])
  | .utf16 _ => ([], [0])
  | .utf32 (some .big) => ([0, 0, 0], [])
  | .utf32 _ => ([], [0, 0, 0])
  | _ => ([], [])

/-- Whether a codec writes characters in units of several bytes. -/
def isWide : Codec → Bool
  | .utf16 _ | .utf32 _ => true
  | _ => false

/-- The byte order mark that a codec writes before a text in units. -/
def mark : Codec → Bytes
  | .utf16 none => [0xFF, 0xFE]
  | .utf32 none => [0xFF, 0xFE, 0, 0]
  | _ => []

theorem newline_eq_zero (c : Codec) : ∀ b ∈ c.newline.1, b = 0 := by
  cases c with
  | utf16 order | utf32 order => obtain _ | _ | _ := order <;> simp [newline]
  | _ => simp [newline]

theorem newline_of_not_wide {c : Codec} (h : c.isWide = false) : c.newline.1 = [] := by
  cases c with
  | utf16 _ | utf32 _ => cases h
  | _ => rfl

variable {c : Codec} {name : String} {s : List Char} {bs : Bytes}

theorem convertsText_of_encodeWith (h : encodeWith name s c = .ok bs) : c.convertsText = true := by
  cases c with
  | refusing | nameOnly => cases h
  | _ => rfl

theorem encodeWith_lineFeed (h : encodeWith name s c = .ok bs) :
    encodeWith name (s ++ ['\n']) c = .ok (bs ++ (c.newline.1 ++ lineFeed :: c.newline.2)) := by
  have hend (f : Char → Bytes) : (s ++ ['\n']).flatMap f = s.flatMap f ++ f '\n' := by
    rw [List.flatMap_append, List.flatMap_singleton]
  have hutf8 : Utf8.encode (s ++ ['\n']) = Utf8.encode s ++ [lineFeed] := hend _
  have hutf16 (o : ByteOrder) : Utf16.encode o (s ++ ['\n']) =
      Utf16.encode o s ++ o.arrange [lineFeed, 0] := hend _
  have hutf32 (o : ByteOrder) : Utf32.encode o (s ++ ['\n']) =
      Utf32.encode o s ++ o.arrange [lineFeed, 0, 0, 0] := hend _
  cases c with
  | utf8 =>
    obtain rfl := Except.ok.inj h
    exact congrArg Except.ok hutf8
  | utf8Signed =>
    obtain rfl := Except.ok.inj h
    rw [encodeWith, hutf8, ← List.append_assoc]
    rfl
  | utf16 order =>
    obtain _ | _ | _ := order <;> obtain rfl := Except.ok.inj h <;> rw [encodeWith, hutf16] <;> rfl
  | utf32 order =>
    obtain _ | _ | _ := order <;> obtain rfl := Except.ok.inj h <;> rw [encodeWith, hutf32] <;> rfl
  | singleByte t =>
    have hspells := (encodeWith_iff_spells rfl name s bs).1 h
    exact (encodeWith_iff_spells rfl name _ _).2 (t.plain_spelling.spells_lineFeed hspells)
  | refusing | nameOnly => cases h

theorem decodeWith_encodeWith (h : encodeWith name s c = .ok bs) : decodeWith name bs c = .ok s := by
  cases c with
  | utf8 => exact decodeWith_of_spells rfl name ((encodeWith_iff_spells rfl name s bs).1 h)
  | utf8Signed =>
    obtain rfl := Except.ok.inj h
    exact Utf8.decode_of_spells (Utf8.spells_encode s)
  | utf16 order =>
    cases order <;> obtain rfl := Except.ok.inj h <;> exact Utf16.decodeFrom_encode s _ []
  | utf32 order =>
    cases order <;> obtain rfl := Except.ok.inj h <;> exact Utf32.decodeFrom_encode s _ []
  | singleByte t => exact decodeWith_of_spells rfl name ((encodeWith_iff_spells rfl name s bs).1 h)
  | refusing | nameOnly => cases h

theorem decodeWith_nil (h : c.convertsText = true) : decodeWith name [] c = .ok [] := by
  cases c with
  | utf16 order | utf32 order => cases order <;> rfl
  | refusing | nameOnly => cases h
  | _ => rfl

/-- The bytes of a text begin with the mark of the codec. -/
theorem mark_append_of_encodeWith (hc : c.isWide = true) (h : encodeWith name s c = .ok bs) :
    ∃ rest, bs = c.mark ++ rest := by
  cases c with
  | utf16 order | utf32 order => cases order <;> exact ⟨_, (Except.ok.inj h).symm⟩
  | _ => cases hc

/-- Bytes that begin with the mark and are decoded to a text are its bytes. -/
theorem encodeWith_of_decodeWith (hc : c.isWide = true) {rest : Bytes}
    (h : decodeWith name (c.mark ++ rest) c = .ok s) : encodeWith name s c = .ok (c.mark ++ rest) := by
  cases c with
  | utf16 order =>
    cases order with
    | none =>
      have hrest : Utf16.decodeFrom .little 2 [] rest = .ok s := h
      obtain ⟨t, rfl, rfl⟩ := Utf16.encode_of_decodeFrom hrest
      rfl
    | some o =>
      have hrest : Utf16.decodeFrom o 0 [] rest = .ok s := h
      obtain ⟨t, rfl, rfl⟩ := Utf16.encode_of_decodeFrom hrest
      rfl
  | utf32 order =>
    cases order with
    | none =>
      have hrest : Utf32.decodeFrom .little 4 [] rest = .ok s := h
      obtain ⟨t, rfl, rfl⟩ := Utf32.encode_of_decodeFrom hrest
      rfl
    | some o =>
      have hrest : Utf32.decodeFrom o 0 [] rest = .ok s := h
      obtain ⟨t, rfl, rfl⟩ := Utf32.encode_of_decodeFrom hrest
      rfl
  | _ => cases hc

/-- Less than the mark is no text. -/
theorem decodeWith_take_mark (hc : c.isWide = true) {k : Nat} (hk : k < c.mark.length)
    (h : decodeWith name (c.mark.take k) c = .ok s) : s = [] := by
  cases c with
  | utf16 order =>
    cases order with
    | none =>
      obtain rfl | rfl : k = 0 ∨ k = 1 := by simp [mark] at hk; omega
      · exact (Except.ok.inj h).symm
      · cases h
    | some o => simp [mark] at hk
  | utf32 order =>
    cases order with
    | none =>
      obtain rfl | rfl | rfl | rfl : k = 0 ∨ k = 1 ∨ k = 2 ∨ k = 3 := by simp [mark] at hk; omega
      · exact (Except.ok.inj h).symm
      all_goals cases h
    | some o => simp [mark] at hk
  | _ => cases hc

/-- In units, bytes that begin as those of a text, or the other way round, are decoded to it only when
they are the same. -/
theorem eq_of_decodeWith (hc : c.isWide = true) (h : encodeWith name s c = .ok bs) (hs : s ≠ [])
    {line : Bytes} (hbegin : line <+: bs ∨ bs <+: line) (hline : decodeWith name line c = .ok s) :
    line = bs := by
  -- shorter than the mark, the bytes are no text; from the mark on, no others are decoded to it
  obtain ⟨rest, rfl⟩ := mark_append_of_encodeWith hc h
  have hwhole : c.mark <+: c.mark ++ rest := List.prefix_append _ _
  have hmark : c.mark <+: line ∨ ∃ k < c.mark.length, line = c.mark.take k := by
    obtain hbegin | hbegin := hbegin
    · rcases Nat.lt_or_ge line.length c.mark.length with hlt | hge
      · refine .inr ⟨line.length, hlt, ?_⟩
        have htake : (c.mark ++ rest).take line.length = c.mark.take line.length :=
          List.take_append_of_le_length (Nat.le_of_lt hlt)
        exact (List.prefix_iff_eq_take.1 hbegin).trans htake
      · exact .inl (List.prefix_of_prefix_length_le hwhole hbegin hge)
    · exact .inl (hwhole.trans hbegin)
  obtain ⟨more, rfl⟩ | ⟨k, hk, rfl⟩ := hmark
  · rw [encodeWith_of_decodeWith hc hline] at h
    exact Except.ok.inj h
  · exact absurd (decodeWith_take_mark hc hk hline) hs

/-- A codec of single bytes and UTF-8 keep the bytes 10 and 13 for the end of a line. -/
theorem free_of_encodeWith (hc : c.isWide = false) (h : encodeWith name s c = .ok bs)
    (hfeed : '\n' ∉ s) (hreturn : s.getLast? ≠ some '\r') :
    lineFeed ∉ bs ∧ bs.getLast? ≠ some carriageReturn := by
  have hspelled {w : Spelling} (hw : w.Plain) {bs : Bytes} (hbs : w.Spells s bs) :
      lineFeed ∉ bs ∧ bs.getLast? ≠ some carriageReturn :=
    ⟨fun hmem => hfeed ((hw.mem_spells hbs (by decide)).1 hmem),
      fun hlast => hreturn (hw.getLast?_spells hbs (by decide) hlast)⟩
  cases c with
  | utf8 => exact hspelled Utf8.plain_spelling ((encodeWith_iff_spells rfl name s bs).1 h)
  | utf8Signed =>
    obtain rfl := Except.ok.inj h
    obtain ⟨hnone, hlast⟩ := hspelled Utf8.plain_spelling (Utf8.spells_encode s)
    refine ⟨by simpa [Utf8.signature, lineFeed] using hnone, ?_⟩
    rw [List.getLast?_append]
    cases hend : (Utf8.encode s).getLast? with
    | none => decide
    | some b => rwa [hend] at hlast
  | singleByte t => exact hspelled t.plain_spelling ((encodeWith_iff_spells rfl name s bs).1 h)
  | utf16 _ | utf32 _ => cases hc
  | refusing | nameOnly => cases h

end Codec

namespace Charset

variable {codec : Codec} {name : String} {s : List Char} {bs : Bytes}

theorem encodeWith_of_encode (hfind : find? name = some codec) (h : encode name s = .ok bs) :
    nameFault? name = none ∧ encodeWith name s codec = .ok bs := by
  unfold encode at h
  split at h
  · cases h
  · next hfault =>
    rw [hfind] at h
    exact ⟨hfault, h⟩

theorem encode_eq_encodeWith (hfault : nameFault? name = none) (hfind : find? name = some codec)
    (s : List Char) : encode name s = encodeWith name s codec := by
  simp only [encode, hfault, hfind]

theorem decode_eq_decodeWith (hfault : nameFault? name = none) (hfind : find? name = some codec)
    (hcodec : codec.convertsText = true) (bs : Bytes) : decode name bs = decodeWith name bs codec := by
  simp only [decode, hfault, hfind]
  split
  · next hempty => rw [List.isEmpty_iff.1 hempty, Codec.decodeWith_nil hcodec]
  · rfl

end Charset

end LineTagger
