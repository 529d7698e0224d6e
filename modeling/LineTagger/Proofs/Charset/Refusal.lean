import LineTagger.Charset

/-!
What character sets refuse. A set that converts text fails with a span of the bytes or of the text and
with nothing else; a value that names no such set fails whatever the text.
-/

namespace LineTagger

namespace Charset

variable {f : Fault}

theorem isUndecodable_of_undecodable {α : Type} {codec : String} {b : UInt8} {start length : Nat}
    {reason : String} (h : (undecodable codec b start length reason : Except Fault α) = .error f) :
    f.isUndecodable = true := by
  rw [← Except.error.inj h, Fault.isUndecodable]

theorem Utf8.isUndecodable_of_decodeFrom {fuel pos : Nat} {acc : List Char} {bs : Bytes}
    (h : decodeFrom fuel pos acc bs = .error f) : f.isUndecodable = true := by
  fun_induction decodeFrom fuel pos acc bs
  case case1 | case2 => cases h
  case case3 ih | case5 ih => exact ih h
  case case4 | case6 | case7 => exact isUndecodable_of_undecodable h

theorem Utf8.isUndecodable_of_decodeSigned {bs : Bytes} (h : decodeSigned bs = .error f) :
    f.isUndecodable = true := by
  unfold decodeSigned at h
  split at h
  · exact isUndecodable_of_decodeFrom h
  · exact isUndecodable_of_decodeFrom h

theorem Utf16.isUndecodable_of_decodeFrom {o : ByteOrder} {pos : Nat} {acc : List Char} {bs : Bytes}
    (h : decodeFrom o pos acc bs = .error f) : f.isUndecodable = true := by
  fun_induction decodeFrom o pos acc bs
  case case1 => cases h
  case case2 | case3 | case5 | case6 => exact isUndecodable_of_undecodable h
  case case4 ih | case7 ih => exact ih h

theorem Utf16.isUndecodable_of_decodeMarked {bs : Bytes} (h : decodeMarked bs = .error f) :
    f.isUndecodable = true := by
  unfold decodeMarked at h
  split at h <;> exact isUndecodable_of_decodeFrom h

theorem Utf32.isUndecodable_of_decodeFrom {o : ByteOrder} {pos : Nat} {acc : List Char} {bs : Bytes}
    (h : decodeFrom o pos acc bs = .error f) : f.isUndecodable = true := by
  fun_induction decodeFrom o pos acc bs
  case case1 => cases h
  case case2 | case3 | case5 => exact isUndecodable_of_undecodable h
  case case4 ih => exact ih h

theorem Utf32.isUndecodable_of_decodeMarked {bs : Bytes} (h : decodeMarked bs = .error f) :
    f.isUndecodable = true := by
  unfold decodeMarked at h
  split at h <;> exact isUndecodable_of_decodeFrom h

theorem SingleByte.isUndecodable_of_decodeFrom {t : SingleByte} {pos : Nat} {acc : List Char}
    {bs : Bytes} (h : t.decodeFrom pos acc bs = .error f) : f.isUndecodable = true := by
  fun_induction decodeFrom t pos acc bs
  case case1 => cases h
  case case2 ih => exact ih h
  case case3 => exact isUndecodable_of_undecodable h

theorem SingleByte.isUnencodable_of_encodeFrom {t : SingleByte} {pos : Nat} {acc : Bytes}
    {s : List Char} (h : t.encodeFrom pos acc s = .error f) : f.isUnencodable = true := by
  fun_induction encodeFrom t pos acc s
  case case1 => cases h
  case case2 ih => exact ih h
  case case3 => rw [← Except.error.inj h, Fault.isUnencodable]

end Charset

namespace Codec

/-- Whether a codec turns texts into bytes and back. -/
def convertsText : Codec → Bool
  | .refusing | .nameOnly => false
  | _ => true

variable {c : Codec} {name : String} {f : Fault}

theorem isUndecodable_of_decodeWith (hc : c.convertsText = true) {bs : Bytes}
    (h : Charset.decodeWith name bs c = .error f) : f.isUndecodable = true := by
  cases c with
  | utf8 => exact Charset.Utf8.isUndecodable_of_decodeFrom h
  | utf8Signed => exact Charset.Utf8.isUndecodable_of_decodeSigned h
  | utf16 order =>
    cases order with
    | none => exact Charset.Utf16.isUndecodable_of_decodeMarked h
    | some o => exact Charset.Utf16.isUndecodable_of_decodeFrom h
  | utf32 order =>
    cases order with
    | none => exact Charset.Utf32.isUndecodable_of_decodeMarked h
    | some o => exact Charset.Utf32.isUndecodable_of_decodeFrom h
  | singleByte t => exact t.isUndecodable_of_decodeFrom h
  | refusing | nameOnly => cases hc

theorem isUnencodable_of_encodeWith (hc : c.convertsText = true) {s : List Char}
    (h : Charset.encodeWith name s c = .error f) : f.isUnencodable = true := by
  cases c with
  | singleByte t => exact t.isUnencodable_of_encodeFrom h
  | utf8 | utf8Signed => cases h
  | utf16 order | utf32 order => cases order <;> cases h
  | refusing | nameOnly => cases hc

end Codec

namespace Charset

/-- What a charset fails with for its own sake, whatever the text or the bytes. -/
inductive Unfit : Fault → Prop where
  | notName (e : TypeMismatch) : Unfit (.mismatch e)
  | zeroByte (details : List Value) : Unfit (.value details)
  | unknown (name : String) : Unfit (.unknownCharset name)
  | refusing (name : String) (decoding : Bool) : Unfit (.undefinedCodec name decoding)
  | notText (name : String) (decoding : Bool) : Unfit (.notTextCharset name decoding)

variable {charset : Value} {name : String} {f : Fault}

theorem unfit_of_nameOf {callee : String} (h : nameOf callee charset = .error f) : Unfit f := by
  unfold nameOf at h
  split at h
  · cases h
  · cases h
    exact .notName _

theorem unfit_of_nameFault? (h : nameFault? name = some f) : Unfit f := by
  unfold nameFault? at h
  split at h
  · cases h
    exact .zeroByte _
  · cases h

theorem decode_error {bs : Bytes} (h : decode name bs = .error f) : f.isUndecodable = true ∨ Unfit f := by
  unfold decode at h
  split at h
  · next f' hname =>
    cases h
    exact .inr (unfit_of_nameFault? hname)
  split at h
  · cases h
  split at h
  · cases h
    exact .inr (.unknown name)
  · next codec _ =>
    cases codec with
    | refusing =>
      cases h
      exact .inr (.refusing name true)
    | nameOnly =>
      cases h
      exact .inr (.notText name true)
    | _ => exact .inl (Codec.isUndecodable_of_decodeWith rfl h)

theorem encode_error {s : List Char} (h : encode name s = .error f) :
    f.isUnencodable = true ∨ Unfit f := by
  unfold encode at h
  split at h
  · next f' hname =>
    cases h
    exact .inr (unfit_of_nameFault? hname)
  split at h
  · cases h
    exact .inr (.unknown name)
  · next codec _ =>
    cases codec with
    | refusing =>
      cases h
      exact .inr (.refusing name false)
    | nameOnly =>
      cases h
      exact .inr (.notText name false)
    | _ => exact .inl (Codec.isUnencodable_of_encodeWith rfl h)

theorem decodeBy_error {bs : Bytes} (h : decodeBy charset bs = .error f) :
    f.isUndecodable = true ∨ Unfit f := by
  obtain hname | ⟨name, -, h⟩ := bind_eq_error h
  · exact .inr (unfit_of_nameOf hname)
  · exact decode_error h

theorem encodeBy_error {s : List Char} (h : encodeBy charset s = .error f) :
    f.isUnencodable = true ∨ Unfit f := by
  obtain hname | ⟨name, -, h⟩ := bind_eq_error h
  · exact .inr (unfit_of_nameOf hname)
  · exact encode_error h

theorem not_isSystem_of_encodeBy {s : List Char} (h : encodeBy charset s = .error f) :
    f.isSystem = false := by
  obtain hf | hf := encodeBy_error h
  · cases f <;> first | rfl | cases hf
  · cases hf <;> rfl

theorem not_isSystem_of_decodeBy {bs : Bytes} (h : decodeBy charset bs = .error f) :
    f.isSystem = false := by
  obtain hf | hf := decodeBy_error h
  · cases f <;> first | rfl | cases hf
  · cases hf <;> rfl

section

variable {codec : Codec} (hname : nameFault? name = none) (hfind : find? name = some codec)
  (hcodec : codec.convertsText = true)

include hname hfind hcodec

theorem isUndecodable_of_decode {bs : Bytes} (h : decode name bs = .error f) :
    f.isUndecodable = true := by
  simp only [decode, hname, hfind] at h
  split at h
  · cases h
  · exact codec.isUndecodable_of_decodeWith hcodec h

theorem isUnencodable_of_encode {s : List Char} (h : encode name s = .error f) :
    f.isUnencodable = true := by
  simp only [encode, hname, hfind] at h
  exact codec.isUnencodable_of_encodeWith hcodec h

end

end Charset

end LineTagger
