/-!
Binary floating point numbers of 64 bits, held exactly: a sign, a mantissa below 2^53 and an
exponent. Every operation computes on whole numbers and rounds once, to nearest, a tie to even.
-/

namespace LineTagger

/-- A double: not a number, an infinity, or plus or minus `mantissa · 2 ^ exponent`. -/
inductive Double where
  | nan
  | infinity (negative : Bool)
  | finite (negative : Bool) (mantissa : Nat) (exponent : Int)
  deriving DecidableEq, Repr, Inhabited

namespace Double

/-- The least exponent, that of zero and of the subnormal numbers. -/
def leastExponent : Int := -1074

/-- The greatest exponent of a finite number. -/
def greatestExponent : Int := 971

/-- Plus or minus zero. -/
def zero (negative : Bool) : Double := .finite negative 0 leastExponent

def powerOfTwo (n : Nat) : Nat := Nat.pow 2 n

def powerOfTen (n : Nat) : Nat := Nat.pow 10 n

/-- The quotient of two whole numbers, rounded to nearest with ties to even. -/
def roundDiv (num den : Nat) : Nat :=
  let q := num / den
  let r := num % den
  if 2 * r > den ∨ (2 * r = den ∧ q % 2 = 1) then q + 1 else q

/-- A fraction times `2 ^ (-e)`, as a fraction. -/
def scaleBy (num den : Nat) (e : Int) : Nat × Nat :=
  if e < 0 then (num * powerOfTwo (-e).toNat, den) else (num, den * powerOfTwo e.toNat)

/-- The double nearest to a fraction, the fraction's denominator being positive. -/
def ofFraction (negative : Bool) (num den : Nat) : Double :=
  if num = 0 then zero negative
  else
    let e₀ := max ((num.log2 : Int) - den.log2 - 53) leastExponent
    let (n₀, d₀) := scaleBy num den e₀
    let e := if n₀ / d₀ ≥ powerOfTwo 53 then e₀ + 1 else e₀
    let (n, d) := scaleBy num den e
    let m := roundDiv n d
    let (m, e) := if m = powerOfTwo 53 then (powerOfTwo 52, e + 1) else (m, e)
    if e > greatestExponent then .infinity negative else .finite negative m e

/-- The double nearest to an integer. -/
def ofInt (n : Int) : Double := ofFraction (n < 0) n.natAbs 1

/-- The double nearest to `digits · 10 ^ e`. Far outside the range of doubles the answer needs no
power of ten. -/
def ofDecimal (negative : Bool) (digits : Nat) (e : Int) : Double :=
  if digits = 0 then zero negative
  else if e > 400 then .infinity negative
  else if e + (digits.log2 / 3 + 1 : Nat) < -400 then zero negative
  else if e < 0 then ofFraction negative digits (powerOfTen (-e).toNat)
  else ofFraction negative (digits * powerOfTen e.toNat) 1

/-- The signed mantissa of a finite number at a smaller or equal exponent. -/
def signedAt (negative : Bool) (m : Nat) (e low : Int) : Int :=
  let n : Int := m * powerOfTwo (e - low).toNat
  if negative then -n else n

/-- The double nearest to `n · 2 ^ e`. -/
def ofScaled (negative : Bool) (n : Nat) (e : Int) : Double :=
  if e < 0 then ofFraction negative n (powerOfTwo (-e).toNat)
  else ofFraction negative (n * powerOfTwo e.toNat) 1

def neg : Double → Double
  | .nan => .nan
  | .infinity s => .infinity !s
  | .finite s m e => .finite (!s) m e

def add : Double → Double → Double
  | .nan, _ => .nan
  | _, .nan => .nan
  | .infinity s, .infinity t => if s = t then .infinity s else .nan
  | .infinity s, _ => .infinity s
  | _, .infinity t => .infinity t
  | .finite s m e, .finite t n f =>
    let low := min e f
    let sum := signedAt s m e low + signedAt t n f low
    if sum = 0 then zero (s && t) else ofScaled (sum < 0) sum.natAbs low

def sub (x y : Double) : Double := add x (neg y)

/-- A finite number as a signed whole number over a power of two. -/
def toFraction? : Double → Option (Int × Nat)
  | .finite s m e =>
    let n : Int := if s then -(m : Int) else m
    if e < 0 then some (n, powerOfTwo (-e).toNat) else some (n * powerOfTwo e.toNat, 1)
  | _ => none

/-- Whether a double is below an integer; no comparison with what is not a number holds. -/
def ltInt (x : Double) (k : Int) : Bool :=
  match x with
  | .nan => false
  | .infinity s => s
  | x => match x.toFraction? with
    | some (n, d) => n < k * d
    | none => false

/-- Whether a double is at most an integer. -/
def leInt (x : Double) (k : Int) : Bool :=
  match x with
  | .nan => false
  | .infinity s => s
  | x => match x.toFraction? with
    | some (n, d) => n ≤ k * d
    | none => false

/-- The integer part, toward zero. -/
def truncate? (x : Double) : Option Int := x.toFraction?.map fun (n, d) => n.tdiv d

/-- How many decimal digits a positive number has. -/
def digitCount (n : Nat) : Nat := (Nat.toDigits 10 n).length

/-- The exponent of the leading decimal digit of a positive fraction. -/
def leadingExponent (num den : Nat) : Int :=
  if den ≤ num then digitCount (num / den) - 1 else -(digitCount ((den - 1) / num) : Int)

/-- A fraction in units of `10 ^ k`, as a fraction. -/
def inUnits (num den : Nat) (k : Int) : Nat × Nat :=
  if k < 0 then (num * powerOfTen (-k).toNat, den) else (num, den * powerOfTen k.toNat)

/-- The interval of the reals that round to a positive double: both ends over the same denominator,
and whether the ends belong to it. -/
def interval (m : Nat) (e : Int) : Nat × Nat × Nat × Bool :=
  let below := if m = powerOfTwo 52 ∧ e > leastExponent then 4 * m - 1 else 4 * m - 2
  let closed := m % 2 = 0
  let f := e - 2
  if f < 0 then (below, 4 * m + 2, powerOfTwo (-f).toNat, closed)
  else (below * powerOfTwo f.toNat, (4 * m + 2) * powerOfTwo f.toNat, 1, closed)

/-- On the grid of `10 ^ k`, the point nearest to a positive double among its two neighbours there
that read back as that double. -/
def gridPoint? (m : Nat) (e k : Int) : Option Nat :=
  let (lo, hi, den, closed) := interval m e
  let (vn, vd) := if e < 0 then (m, powerOfTwo (-e).toNat) else (m * powerOfTwo e.toNat, 1)
  let (n, d) := inUnits vn vd k
  let q := n / d
  let reads := fun p : Nat =>
    let (pn, pd) := if k < 0 then (p, powerOfTen (-k).toNat) else (p * powerOfTen k.toNat, 1)
    let x := pn * den
    if closed then lo * pd ≤ x ∧ x ≤ hi * pd else lo * pd < x ∧ x < hi * pd
  let nearer := if 2 * (n % d) > d ∨ (2 * (n % d) = d ∧ q % 2 = 1) then q + 1 else q
  let other := if nearer = q then q + 1 else q
  if reads nearer then some nearer else if reads other then some other else none

/-- The fewest digits that read back, tried from `18 - fuel` digits on, with their exponent. -/
def shortestFrom (m : Nat) (e lead : Int) : Nat → Nat × Int
  | 0 => (m, e)
  | fuel + 1 =>
    let k := lead - (17 - fuel : Nat) + 1
    match gridPoint? m e k with
    | some p => (p, k)
    | none => shortestFrom m e lead fuel

/-- The fewest decimal digits that read back as a positive double, and the exponent of the last. -/
def shortest (m : Nat) (e : Int) : Nat × Int :=
  let (num, den) := if e < 0 then (m, powerOfTwo (-e).toNat) else (m * powerOfTwo e.toNat, 1)
  shortestFrom m e (leadingExponent num den) 17

/-- The digits of a number without the zeros at its end. -/
def significant (n : Nat) : List Char :=
  ((Nat.toDigits 10 n).reverse.dropWhile (· = '0')).reverse

/-- Digits with the point after the first `lead + 1` of them: positional from `10 ^ -4` up to
`10 ^ 16`, and with an exponent of at least two digits elsewhere. -/
def layout (ds : List Char) (lead : Int) : List Char :=
  if lead < -4 ∨ 16 ≤ lead then
    let point := match ds with
      | d :: x :: more => d :: '.' :: x :: more
      | ds => ds
    let digits := Nat.toDigits 10 lead.natAbs
    let padded := if digits.length < 2 then '0' :: digits else digits
    point ++ ['e', if lead < 0 then '-' else '+'] ++ padded
  else if lead < 0 then ['0', '.'] ++ List.replicate (-lead - 1).toNat '0' ++ ds
  else
    let whole := lead.toNat + 1
    let whole' := ds.take whole ++ List.replicate (whole - ds.length) '0'
    let part := ds.drop whole
    whole' ++ '.' :: (if part.isEmpty then ['0'] else part)

def signText (negative : Bool) : String := if negative then "-" else ""

/-- The text of a double: the fewest digits that read back. -/
def text : Double → String
  | .nan => "nan"
  | .infinity s => signText s ++ "inf"
  | .finite s 0 _ => signText s ++ "0.0"
  | .finite s m e =>
    let (p, k) := shortest m e
    signText s ++ String.ofList (layout (significant p) (k + digitCount p - 1))

/-- A double with three decimal places, a tie going to the even neighbour. -/
def threePlaces : Double → String
  | .nan => "nan"
  | .infinity s => signText s ++ "inf"
  | .finite s m e =>
    let n :=
      if e < 0 then roundDiv (m * 1000) (powerOfTwo (-e).toNat) else m * powerOfTwo e.toNat * 1000
    let part := Nat.toDigits 10 (n % 1000)
    signText s ++ toString (n / 1000) ++ "." ++
      String.ofList (List.replicate (3 - part.length) '0' ++ part)

end Double

end LineTagger
