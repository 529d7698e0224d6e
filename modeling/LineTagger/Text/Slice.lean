/-!
Parts of a sequence between two positions, where a negative position counts from the end.
-/

namespace LineTagger

/-- The place in a sequence of `n` items that a position names: a negative position counts from the
end, and a position beyond either end is that end. -/
def place (n : Nat) (i : Int) : Nat :=
  if i < 0 then (n + i).toNat else min i.toNat n

/-- The items from position `i` up to position `j`; none when `j` does not follow `i`. -/
def slice {α : Type} (s : Array α) (i j : Int) : List α :=
  (s.extract (place s.size i) (place s.size j)).toList

/-- The items before position `i`. -/
def sliceTo {α : Type} (s : List α) : Int → List α
  | .ofNat n => s.take n
  | i => s.take (place s.length i)

/-- The items from position `i` on. -/
def sliceFrom {α : Type} (s : List α) : Int → List α
  | .ofNat n => s.drop n
  | i => s.drop (place s.length i)

theorem place_le (n : Nat) (i : Int) : place n i ≤ n := by
  unfold place
  split <;> omega

theorem place_natCast (n k : Nat) : place n k = min k n := by
  unfold place
  split <;> omega

theorem slice_toArray {α : Type} (s : List α) (i j : Int) :
    slice s.toArray i j =
      (s.drop (place s.length i)).take (place s.length j - place s.length i) := by
  simp [slice]

/-- What stands at a position is cut out by its length. -/
theorem slice_of_drop {α : Type} {s w rest : List α} {i : Nat} (h : s.drop i = w ++ rest) :
    slice s.toArray i (i + w.length : Nat) = w := by
  have hlength := congrArg List.length h
  rw [List.length_drop, List.length_append] at hlength
  by_cases hi : i ≤ s.length
  · have hstart : place s.length i = i := by
      rw [place_natCast]
      omega
    have hstop : place s.length (i + w.length : Nat) = i + w.length := by
      rw [place_natCast]
      omega
    rw [slice_toArray, hstart, hstop, h, Nat.add_sub_cancel_left, List.take_left]
  · have hw : w = [] := List.eq_nil_of_length_eq_zero (by omega)
    simp [hw, slice_toArray]

theorem sliceTo_append_sliceFrom {α : Type} (s : List α) (i : Int) :
    sliceTo s i ++ sliceFrom s i = s := by
  cases i <;> exact List.take_append_drop _ s

end LineTagger
