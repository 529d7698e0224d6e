import LineTagger.Fault

/-!
Limits of counts. A limit is a number of any kind; what is no number at all cannot be compared with.
-/

namespace LineTagger.Limit

/-- Whether a count is above a limit. No count is above infinity or what is not a number. -/
def exceeds (count : Int) (limit : Value) : Except Fault Bool :=
  match limit.quantity? with
  | some q => .ok (q.ltInt count)
  | none => .error (.mismatch (.notComparable ">" "int" limit.typeName))

/-- Whether a count has come to a limit; no limit is ever reached if there is none. -/
def isReached (count : Int) (limit : Value) : Except Fault Bool :=
  match limit with
  | .null => .ok false
  | v =>
    match v.quantity? with
    | some q => .ok (q.leInt count)
    | none => .error (.mismatch (.notComparable ">=" "int" v.typeName))

/-- A number that no count within a limit is above, if the limit is a finite number. -/
def bound? (limit : Value) : Option Nat :=
  match limit.quantity? with
  | some (.whole n) => some n.toNat
  | some (.double x) => x.truncate?.map Int.toNat
  | none => none

end LineTagger.Limit
