import ClassInference.Binary64

/-!
# Arithmetic of binary64 numbers

Each operation is exact arithmetic on significands and powers of two, rounded once. A result beyond
the largest finite number is none.
-/

namespace ClassInference

namespace Binary64

/-- The number nearest to `± num / den * 2 ^ exponent`. -/
def ofScaledQuotient? (negative : Bool) (num den : Nat) : Int → Option Binary64
  | .ofNat e => ofQuotient? negative (num * Nat.pow 2 e) den
  | .negSucc e => ofQuotient? negative num (den * Nat.pow 2 (e + 1))

/-- The number nearest to an integer. -/
def ofInt? (n : Int) : Option Binary64 := ofQuotient? (decide (n < 0)) n.natAbs 1

def isZero (x : Binary64) : Bool := x.significand == 0

def neg (x : Binary64) : Binary64 := { x with negative := !x.negative }

def abs (x : Binary64) : Binary64 := { x with negative := false }

/-- The significand for a power of two that is not above the exponent. -/
def significandAt (x : Binary64) (exponent : Int) : Nat :=
  x.significand * Nat.pow 2 (x.exponent - exponent).toNat

/-- The sum. A sum of zero is negative only if both numbers are. -/
def add? (x y : Binary64) : Option Binary64 :=
  let e := min x.exponent y.exponent
  let signed (z : Binary64) : Int :=
    if z.negative then -(z.significandAt e : Int) else z.significandAt e
  let sum := signed x + signed y
  if sum = 0 then some (zero (x.negative && y.negative))
  else ofScaledQuotient? (decide (sum < 0)) sum.natAbs 1 e

def mul? (x y : Binary64) : Option Binary64 :=
  ofScaledQuotient? (x.negative != y.negative) (x.significand * y.significand) 1
    (x.exponent + y.exponent)

/-- The quotient by a number other than zero. -/
def div? (x y : Binary64) : Option Binary64 :=
  ofScaledQuotient? (x.negative != y.negative) x.significand y.significand
    (x.exponent - y.exponent)

/-- What is left of `x` after the multiples of a number other than zero, with the sign of `x`. -/
def rem? (x y : Binary64) : Option Binary64 :=
  let e := min x.exponent y.exponent
  ofScaledQuotient? x.negative (x.significandAt e % y.significandAt e) 1 e

/-- The order of values; the two zeros are equal. -/
def order (x y : Binary64) : Ordering := compareOfLessAndEq x.value y.value

/-! ### Powers of ten -/

/-- The number nearest to `10 ^ k`. -/
def tenPower? (k : Nat) : Option Binary64 := ofQuotient? false (Nat.pow 10 k) 1

/-- The largest power of ten that is finite. -/
def tenLimit : Nat := 308

/-- A number times a power of ten within reach, the power rounded first. -/
def timesTen? (x : Binary64) (power : Int) : Option Binary64 :=
  if 0 ≤ power then (tenPower? power.toNat).bind x.mul? else (tenPower? (-power).toNat).bind x.div?

/-- Powers below the reach of `tenLimit` come nearer to it by a step. -/
theorem toNat_neg_add_tenLimit_lt {power : Int} (h : power < -(tenLimit : Int)) :
    (-(power + tenLimit)).toNat < (-power).toNat := by
  have : (tenLimit : Int) = 308 := rfl
  omega

/-- A number times a power of ten in steps that are rounded one by one: while the power is out of
reach, the number is divided by the largest one first. -/
def scaleTen? (x : Binary64) (power : Int) : Option Binary64 :=
  if power < -(tenLimit : Int) then
    if x.isZero then some x
    else
      (x.timesTen? (-tenLimit)).bind fun y => y.scaleTen? (power + tenLimit)
  else if (tenLimit : Int) < power then
    if x.isZero then some x else none
  else x.timesTen? power
termination_by (-power).toNat
decreasing_by exact toNat_neg_add_tenLimit_lt ‹_›

end Binary64

end ClassInference
