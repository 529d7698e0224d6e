import LineTagger.Charset
import LineTagger.Proofs.Charset.SingleByte
import LineTagger.Proofs.Charset.Utf8

/-!
Names of character sets under which a text is spelled character by character. Under such a name
encoding and decoding invert each other.
-/

namespace LineTagger

open Charset

namespace Codec

/-- What a codec makes of single characters, where it converts them one by one and leaves ASCII as it
is. -/
def spelling? : Codec → Option Spelling
  | .utf8 => some Utf8.spelling
  | .singleByte t => some t.spelling
  | _ => none

variable {c : Codec} {w : Spelling}

theorem plain_of_spelling? (h : c.spelling? = some w) : w.Plain := by
  cases c with
  | utf8 => exact Option.some.inj h ▸ Utf8.plain_spelling
  | singleByte t => exact Option.some.inj h ▸ t.plain_spelling
  | utf8Signed | utf16 _ | utf32 _ | refusing | nameOnly => cases h

theorem encodeWith_iff_spells (h : c.spelling? = some w) (name : String) (s : List Char) (bs : Bytes) :
    encodeWith name s c = .ok bs ↔ w.Spells s bs := by
  cases c with
  | utf8 =>
    obtain rfl := Option.some.inj h
    refine ⟨fun hs => Except.ok.inj hs ▸ Utf8.spells_encode s, fun hs => ?_⟩
    exact congrArg Except.ok (Utf8.encode_of_spells hs)
  | singleByte t =>
    obtain rfl := Option.some.inj h
    refine ⟨fun hs => ?_, fun hs => SingleByte.encodeFrom_of_spells hs 0 []⟩
    obtain ⟨bs, hbs, rfl⟩ := SingleByte.spells_of_encodeFrom hs
    exact hbs
  | utf8Signed | utf16 _ | utf32 _ | refusing | nameOnly => cases h

theorem decodeWith_of_spells (h : c.spelling? = some w) (name : String) {s : List Char} {bs : Bytes}
    (hs : w.Spells s bs) : decodeWith name bs c = .ok s := by
  cases c with
  | utf8 =>
    obtain rfl := Option.some.inj h
    exact Utf8.decode_of_spells hs
  | singleByte t =>
    obtain rfl := Option.some.inj h
    exact SingleByte.decodeFrom_of_spells hs 0 []
  | utf8Signed | utf16 _ | utf32 _ | refusing | nameOnly => cases h

end Codec

namespace Charset

/-- Under a name a text and its bytes are spelled in some way that leaves ASCII as it is. -/
structure SpelledBy (name : String) (w : Spelling) : Prop where
  plain : w.Plain
  encode_iff (s : List Char) (bs : Bytes) : encode name s = .ok bs ↔ w.Spells s bs
  decode_eq {s : List Char} {bs : Bytes} (hs : w.Spells s bs) : decode name bs = .ok s

theorem spelledBy_of_find? {name : String} {c : Codec} {w : Spelling} (hname : nameFault? name = none)
    (hfind : find? name = some c) (hw : c.spelling? = some w) : SpelledBy name w where
  plain := c.plain_of_spelling? hw
  encode_iff s bs := by
    simp only [encode, hname, hfind]
    exact c.encodeWith_iff_spells hw name s bs
  decode_eq {s bs} hs := by
    simp only [decode, hname, hfind]
    split
    · next hempty =>
      have hnil := ((c.plain_of_spelling? hw).spells_eq_nil_iff hs).1 (List.isEmpty_iff.1 hempty)
      rw [hnil]
    · exact c.decodeWith_of_spells hw name hs

theorem find?_utf8 : find? "utf-8" = some .utf8 := by decide

theorem encode_utf8 (s : List Char) : encode "utf-8" s = .ok (Utf8.encode s) := by
  have hname : nameFault? "utf-8" = none := rfl
  simp only [encode, hname, find?_utf8, encodeWith]

/-- The names in everyday use. -/
theorem spelledBy_of_mem {name : String} (h : name ∈ ["utf-8", "ascii", "latin-1"]) :
    ∃ w, SpelledBy name w := by
  have hfind : ∃ c, nameFault? name = none ∧ find? name = some c ∧ c.spelling?.isSome := by
    simp only [List.mem_cons, List.not_mem_nil, or_false] at h
    obtain rfl | rfl | rfl := h
    · exact ⟨.utf8, rfl, find?_utf8, rfl⟩
    · exact ⟨.singleByte .ascii, rfl, by decide, rfl⟩
    · exact ⟨.singleByte .latin1, rfl, by decide, rfl⟩
  obtain ⟨c, hname, hc, hsome⟩ := hfind
  obtain ⟨w, hw⟩ := Option.isSome_iff_exists.1 hsome
  exact ⟨w, spelledBy_of_find? hname hc hw⟩

end Charset

end LineTagger
