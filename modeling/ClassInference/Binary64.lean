/-!
# Finite binary64 numbers

A finite double is a sign, a significand of at most 53 bits and a power of two, in the one form
that leaves no choice: the significand is full, or the exponent is the least. `value` is the exact
rational, `ofQuotient?` the nearest number to a quotient, ties to the even significand. Powers are
written `Nat.pow`, the same function whether or not monoids are in scope.
-/

namespace ClassInference

/-- Significand and exponent are the canonical ones of a finite double. -/
def Binary64.Canonical (significand : Nat) (exponent : Int) : Prop :=
  significand < Nat.pow 2 53 ∧ -1074 ≤ exponent ∧ exponent ≤ 971 ∧
    (Nat.pow 2 52 ≤ significand ∨ exponent = -1074)

instance (m : Nat) (e : Int) : Decidable (Binary64.Canonical m e) :=
  inferInstanceAs (Decidable (_ ∧ _ ∧ _ ∧ _))

/-- The number `± significand * 2 ^ exponent`. The two zeros differ in sign. -/
structure Binary64 where
  negative : Bool
  significand : Nat
  exponent : Int
  canonical : Binary64.Canonical significand exponent
deriving Repr, DecidableEq

namespace Binary64

/-- The exact value. -/
def value (x : Binary64) : Rat :=
  (if x.negative then -1 else 1) * (x.significand : Rat) * (2 : Rat) ^ x.exponent

def zero (negative : Bool) : Binary64 := ⟨negative, 0, -1074, by decide⟩

/-- Split the magnitude at the binary point when it is a whole number. -/
def wholeMagnitude? (x : Binary64) : Option Nat :=
  match x.exponent with
  | .ofNat e => some (x.significand * Nat.pow 2 e)
  | .negSucc e =>
    if x.significand % Nat.pow 2 (e + 1) = 0 then some (x.significand / Nat.pow 2 (e + 1)) else none

/-- The integer that `x` equals, if it equals one. -/
def whole? (x : Binary64) : Option Int :=
  x.wholeMagnitude?.map fun n => if x.negative then -(n : Int) else n

/-- The number with these parts, none where the exponent is too large to be finite. -/
def ofParts? (negative : Bool) (significand : Nat) (exponent : Int) : Option Binary64 :=
  if h : Canonical significand exponent then some ⟨negative, significand, exponent, h⟩ else none

/-- The integer nearest to `num / den`, a half going to the even neighbour. -/
def roundQuotient (num den : Nat) : Nat :=
  let floor := num / den
  let twice := 2 * (num % den)
  if twice < den then floor
  else if den < twice then floor + 1
  else if floor % 2 = 0 then floor else floor + 1

/-- `num / den` divided by `2 ^ exponent`, as numerator and denominator. -/
def scaled (num den : Nat) : Int → Nat × Nat
  | .ofNat e => (num, den * Nat.pow 2 e)
  | .negSucc e => (num * Nat.pow 2 (e + 1), den)

/-- The exponent that gives the quotient 53 significant bits, but at least the smallest one. -/
def exponentOf (num den : Nat) : Int :=
  let k : Int := Int.ofNat num.log2 - Int.ofNat den.log2
  let atLeast := scaled num den k
  let e := if atLeast.2 ≤ atLeast.1 then k - 52 else k - 53
  max e (-1074)

/-- The number nearest to `± num / den`; none when that is beyond the largest finite number. -/
def ofQuotient? (negative : Bool) (num den : Nat) : Option Binary64 :=
  if num = 0 then some (zero negative)
  else
    let e := exponentOf num den
    let q := scaled num den e
    let m := roundQuotient q.1 q.2
    if m = Nat.pow 2 53 then ofParts? negative (Nat.pow 2 52) (e + 1) else ofParts? negative m e

/-- The number nearest to `± digits * 10 ^ power`. Powers far outside the range are settled by
the count of digits alone. -/
def ofDecimal? (negative : Bool) (digits : Nat) (power : Int) : Option Binary64 :=
  let size : Int := digits.log2 / 3 + 1
  if digits = 0 ∨ size + power < -400 then some (zero negative)
  else if 400 < power then none
  else
    match power with
    | .ofNat p => ofQuotient? negative (digits * Nat.pow 10 p) 1
    | .negSucc p => ofQuotient? negative digits (Nat.pow 10 (p + 1))

end Binary64

end ClassInference
