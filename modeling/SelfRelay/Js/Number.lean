import Mathlib.Data.Rat.Floor
import SelfRelay.Js.Text

/-!
# JavaScript numbers

A finite number is given by its rational value, with `-0` apart.  `ofRat` rounds a rational to the
nearest double, ties to even, and `toString` is `Number::toString` in base ten: the shortest
digits that round back to the number.  On safe integers both are the obvious thing, and the
definitions say so first.
-/

namespace SelfRelay

/-- An IEEE 754 double. -/
inductive JsNumber where
  | finite (value : ℚ)
  | negZero
  | infinity (negative : Bool)
  | nan
  deriving DecidableEq, Repr

namespace JsNumber

/-- The number of a natural number in the safe range. -/
def ofNat (n : ℕ) : JsNumber := .finite n

/-- The rational value of a finite number. -/
def value? : JsNumber → Option ℚ
  | .finite q => some q
  | .negZero => some 0
  | .infinity _ | .nan => none

/-- `Number.MAX_SAFE_INTEGER` -/
def maxSafeInteger : ℕ := 2 ^ 53 - 1

/-- `Number.isSafeInteger(value)` -/
def isSafeInteger (n : JsNumber) : Bool :=
  match n.value? with
  | some q => q.den = 1 && q.num.natAbs ≤ maxSafeInteger
  | none => false

/-- `left === right` -/
def strictEq (left right : JsNumber) : Bool :=
  match left, right with
  | .infinity a, .infinity b => a = b
  | _, _ => left.value?.isSome && left.value? = right.value?

/-- `left < right` -/
def lt (left right : JsNumber) : Bool :=
  match left.value?, right.value? with
  | some a, some b => a < b
  | some _, none => right = .infinity false
  | none, some _ => left = .infinity true
  | none, none => left = .infinity true && right = .infinity false

/-- `left <= right` -/
def le (left right : JsNumber) : Bool := left.lt right || left.strictEq right

/-- `Number.MIN_SAFE_INTEGER` -/
def minSafeInteger : JsNumber := .finite (-maxSafeInteger)

/-! ## Rounding -/

/-- Round to the nearest integer, ties to even. -/
def roundHalfEven (q : ℚ) : ℤ :=
  let low := ⌊q⌋
  let rest := q - low
  if rest < 1 / 2 then low
  else if 1 / 2 < rest then low + 1
  else if low % 2 = 0 then low else low + 1

/-- The exponent `e` with `2 ^ e ≤ q < 2 ^ (e + 1)`, for `0 < q`. -/
def log2 (q : ℚ) : ℤ :=
  let e : ℤ := (Nat.log2 q.num.natAbs : ℤ) - Nat.log2 q.den
  if q < 2 ^ e then e - 1 else e

/-- The double nearest to a positive rational. -/
def ofPositive (q : ℚ) : Option ℚ :=
  let exponent := max (-1074) (log2 q - 52)
  let rounded : ℚ := roundHalfEven (q / 2 ^ exponent) * 2 ^ exponent
  if rounded < 2 ^ (1024 : ℤ) then some rounded else none

/-- The double nearest to a rational, with the sign of the literal it was read from. -/
def ofRat (negative : Bool) (q : ℚ) : JsNumber :=
  if q = 0 then if negative then .negZero else .finite 0
  else if q.den = 1 ∧ q.num.natAbs ≤ maxSafeInteger then .finite (if negative then -q else q)
  else
    match ofPositive q with
    | none => .infinity negative
    | some rounded =>
      if rounded = 0 then if negative then .negZero else .finite 0
      else .finite (if negative then -rounded else rounded)

/-! ## Decimal digits -/

/-- The decimal digits of a natural number. -/
def decimal (n : ℕ) : JsString := (Nat.toDigits 10 n).map fun c => UInt16.ofNat c.toNat

/-- The exponent `n` with `10 ^ (n - 1) ≤ q < 10 ^ n`, for `0 < q`. -/
def log10 (q : ℚ) : ℤ :=
  let n : ℤ := ((decimal q.num.natAbs).length : ℤ) - (decimal q.den).length
  if q < 10 ^ n then n else n + 1

/-- Of the two `k`-digit decimals around `q`, one that rounds back to `q`, the nearer one first. -/
def candidate (q : ℚ) (n : ℤ) (k : ℕ) : Option (ℕ × ℤ) :=
  let scaled := q / 10 ^ (n - k)
  let low := ⌊scaled⌋.toNat
  let high := low + 1
  let roundsBack (s : ℕ) : Bool := ofPositive (s * 10 ^ (n - k)) = some q
  let order := if scaled - low < high - scaled then [low, high]
    else if high - scaled < scaled - low then [high, low]
    else if low % 2 = 0 then [low, high] else [high, low]
  (order.find? roundsBack).map fun s => if s = 10 ^ k then (10 ^ (k - 1), n + 1) else (s, n)

/-- The shortest digits of a positive double: `k` digits `s` and the exponent `n`. -/
def shortest (q : ℚ) : ℕ × ℕ × ℤ :=
  let n := log10 q
  ((List.range 17).findSome? fun k => (candidate q n (k + 1)).map fun (s, n) => (k + 1, s, n)).getD
    (17, ⌊q / 10 ^ (n - 17)⌋.toNat, n)

/-- `Number::toString` of a positive number. -/
def positiveToString (q : ℚ) : JsString :=
  if q.den = 1 ∧ q.num.natAbs ≤ maxSafeInteger then decimal q.num.natAbs
  else
    let (k, s, n) := shortest q
    let digits := decimal s
    let zeros (count : ℤ) : JsString := List.replicate count.toNat 0x30
    let exponent := js (if 0 ≤ n - 1 then "e+" else "e-") ++ decimal (n - 1).natAbs
    if k ≤ n ∧ n ≤ 21 then digits ++ zeros (n - k)
    else if 0 < n ∧ n ≤ 21 then digits.take n.toNat ++ js "." ++ digits.drop n.toNat
    else if -6 < n ∧ n ≤ 0 then js "0." ++ zeros (-n) ++ digits
    else if k = 1 then digits ++ exponent
    else digits.take 1 ++ js "." ++ digits.drop 1 ++ exponent

/-- `JSON.stringify(value)` of a finite number. -/
def toString : JsNumber → JsString
  | .finite q =>
    if q = 0 then js "0" else if q < 0 then js "-" ++ positiveToString (-q) else positiveToString q
  | .negZero => js "0"
  | .infinity _ | .nan => js "null"

/-! ## Safe integers -/

example : (ofRat false (1 / 10)).toString = js "0.1" := by decide +kernel

end JsNumber

end SelfRelay
