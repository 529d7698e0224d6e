/-!
Sets of characters given by ascending, disjoint ranges of code points.
-/

namespace LineTagger

/-- What is said of all characters of a text is decided along the text, not over all the characters there are. -/
instance decidableForallChar (s : List Char) (p : Char → Prop) [DecidablePred p] : Decidable (∀ c ∈ s, p c) :=
  List.decidableBAll p s

instance decidableExistsChar (o : Option Char) (p : Char → Prop) [DecidablePred p] : Decidable (∃ c ∈ o, p c) :=
  Option.decidableExistsMem o

/-- Ascending, disjoint ranges of code points, both ends included. -/
abbrev Ranges := List (Nat × Nat)

/-- Whether a code point lies in one of the ranges; the search ends at the first range above it. -/
def Ranges.has : Ranges → Nat → Bool
  | [], _ => false
  | (lo, hi) :: rest, n => if n < lo then false else n ≤ hi || Ranges.has rest n

/-- The start of the range that holds a code point. -/
def Ranges.startOf? : Ranges → Nat → Option Nat
  | [], _ => none
  | (lo, hi) :: rest, n =>
    if n < lo then none else if n ≤ hi then some lo else Ranges.startOf? rest n

theorem Ranges.startOf?_isSome (rs : Ranges) (n : Nat) : (rs.startOf? n).isSome = rs.has n := by
  induction rs with
  | nil => rfl
  | cons r rest ih =>
    obtain ⟨lo, hi⟩ := r
    by_cases h : n < lo
    · simp [startOf?, has, h]
    · by_cases k : n ≤ hi <;> simp [startOf?, has, h, k, ih]

end LineTagger
