import LineTagger.Number.Double

/-!
Numbers that may be whole or not, such as a number of seconds.
-/

namespace LineTagger

/-- A whole number or a double. -/
inductive Quantity where
  | whole (n : Int)
  | double (x : Double)
  deriving DecidableEq, Repr, Inhabited

namespace Quantity

def toDouble : Quantity → Double
  | .whole n => Double.ofInt n
  | .double x => x

/-- Whether a quantity is at most a whole number. -/
def leInt : Quantity → Int → Bool
  | .whole n, k => n ≤ k
  | .double x, k => x.leInt k

/-- Whether a quantity is below a whole number. -/
def ltInt : Quantity → Int → Bool
  | .whole n, k => n < k
  | .double x, k => x.ltInt k

end Quantity

end LineTagger
