import LineTagger.Proofs.Charset.LineFeed
import LineTagger.Proofs.Gathering
import LineTagger.Proofs.RequestLine
import LineTagger.Proofs.Validated
import LineTagger.Session

/-!
What becomes of a line that a peer writes in the charset of a connection. The line is cut at the first
byte 10 before it is decoded, so it comes back whole under charsets that keep this byte for the end of a
line; under those that write units of several bytes it may not.
-/

namespace LineTagger

open Charset Connection

/-- Whether a line is read as it was written; `line` are its bytes without those of its end. -/
def Codec.Frames (line : Bytes) : Codec → Prop
  | .utf8 | .utf8Signed | .singleByte _ => True
  | .utf16 (some .big) | .utf32 (some .big) => False
  | .utf16 _ | .utf32 _ => lineFeed ∉ line ∧ line.getLast? ≠ some carriageReturn
  | .refusing | .nameOnly => False

section

variable {codec : Codec} {name : String} {s : List Char} {line : Bytes}

theorem Codec.frames_iff (hline : encodeWith name s codec = .ok line) (hfeed : '\n' ∉ s)
    (hreturn : s.getLast? ≠ some '\r') : codec.Frames line ↔
      codec.newline.1 = [] ∧ lineFeed ∉ line ∧ line.getLast? ≠ some carriageReturn := by
  cases hwide : codec.isWide with
  | false =>
    obtain ⟨hnone, hlast⟩ := codec.free_of_encodeWith hwide hline hfeed hreturn
    cases codec with
    | utf16 _ | utf32 _ => cases hwide
    | refusing | nameOnly => cases hline
    | _ => exact iff_of_true trivial ⟨rfl, hnone, hlast⟩
  | true =>
    cases codec with
    | utf16 order | utf32 order => obtain _ | _ | _ := order <;> simp [Frames, newline]
    | _ => cases hwide

/-- What remains of a stream that is cut at its first line feed and loses its carriage return is a
beginning of it without a line feed. -/
theorem trimReturn_takeWhile (stream : Bytes) :
    trimReturn (stream.takeWhile (· ≠ lineFeed)) <+: stream ∧
      lineFeed ∉ trimReturn (stream.takeWhile (· ≠ lineFeed)) := by
  have hcut : stream.takeWhile (· ≠ lineFeed) <+: stream := List.takeWhile_prefix _
  have hnone : lineFeed ∉ stream.takeWhile (· ≠ lineFeed) := fun hmem => by
    simpa using List.mem_takeWhile_imp hmem
  generalize stream.takeWhile (· ≠ lineFeed) = cut at hcut hnone
  have hlast : cut.dropLast <+: cut := List.dropLast_prefix _
  unfold trimReturn
  split
  · exact ⟨hlast.trans hcut, fun hmem => hnone (hlast.subset hmem)⟩
  · exact ⟨hcut, hnone⟩

/-- A line that ends in a unit is cut to itself just when the byte 10 is the first of the unit and the cut
meets no byte of the line. -/
theorem trimReturn_eq_iff {before : Bytes} (hbefore : ∀ b ∈ before, b = 0) (after : Bytes) :
    trimReturn ((line ++ (before ++ lineFeed :: after)).takeWhile (· ≠ lineFeed)) = line ↔
      before = [] ∧ lineFeed ∉ line ∧ line.getLast? ≠ some carriageReturn := by
  by_cases hmem : lineFeed ∈ line
  · refine iff_of_false (fun heq => ?_) fun h => h.2.1 hmem
    obtain ⟨-, hnone⟩ := trimReturn_takeWhile (line ++ (before ++ lineFeed :: after))
    rw [heq] at hnone
    exact hnone hmem
  · have hnone : lineFeed ∉ line ++ before := by
      rw [List.mem_append, not_or]
      exact ⟨hmem, fun h => by simpa [lineFeed] using hbefore _ h⟩
    rw [← List.append_assoc, takeWhile_append_lineFeed hnone, trimReturn]
    cases hlast : before.getLast? with
    | none =>
      obtain rfl := List.getLast?_eq_none_iff.1 hlast
      rw [List.append_nil]
      split
      · next hreturn =>
        refine iff_of_false (fun heq => ?_) fun h => h.2.2 hreturn
        have hlength := congrArg List.length heq
        have hpos := List.length_pos_of_mem (List.mem_of_getLast? hreturn)
        rw [List.length_dropLast] at hlength
        omega
      · next hreturn => exact iff_of_true rfl ⟨rfl, hmem, hreturn⟩
    | some b =>
      have hb : b = 0 := hbefore b (List.mem_of_getLast? hlast)
      have hne : before ≠ [] := List.ne_nil_of_mem (List.mem_of_getLast? hlast)
      rw [List.getLast?_append, hlast, Option.some_or, hb, if_neg (by decide)]
      simp [hne]

/-- A request line that ends is the text of what remains when the stream is cut. -/
theorem requestLine_eq_some_iff {charset : Value} {m : Nat} {stream : Bytes} (h : lineFeed ∈ stream)
    (e : StreamEnd) : requestLine charset m stream e = .ok (some s) ↔
      (stream.takeWhile (· ≠ lineFeed)).length ≤ m ∧
        Charset.decodeBy charset (trimReturn (stream.takeWhile (· ≠ lineFeed))) = .ok s := by
  rw [requestLine, decodeLine_eq_some_iff]
  unfold rawLine
  rw [if_pos h]
  dsimp only
  split
  · next hlong => exact iff_of_false (by simp) fun h => absurd h.1 (by omega)
  · next hshort =>
    simp only [Except.ok.injEq, Option.some.injEq, exists_eq_left']
    exact ⟨fun h => ⟨by omega, h⟩, And.right⟩

/-- Cutting the stream of a line leaves bytes that are decoded to the text just when it leaves the bytes of
the text. -/
theorem Codec.decodeWith_cut_iff (hs : s ≠ []) (hfeed : '\n' ∉ s) (hreturn : s.getLast? ≠ some '\r')
    (hline : encodeWith name s codec = .ok line) {stream : Bytes}
    (hstream : stream = line ++ (codec.newline.1 ++ lineFeed :: codec.newline.2)) :
    decodeWith name (trimReturn (stream.takeWhile (· ≠ lineFeed))) codec = .ok s ↔
      trimReturn (stream.takeWhile (· ≠ lineFeed)) = line := by
  refine ⟨fun hdecode => ?_, fun heq => heq ▸ codec.decodeWith_encodeWith hline⟩
  cases hwide : codec.isWide with
  | true =>
    have hcut := (trimReturn_takeWhile stream).1
    have hbegin : line <+: stream := hstream ▸ List.prefix_append _ _
    exact codec.eq_of_decodeWith hwide hline hs (List.prefix_or_prefix_of_prefix hcut hbegin) hdecode
  | false =>
    rw [hstream, trimReturn_eq_iff codec.newline_eq_zero]
    exact ⟨codec.newline_of_not_wide hwide, codec.free_of_encodeWith hwide hline hfeed hreturn⟩

end

end LineTagger
