import ClassInference.Binary64

/-!
# Shortest decimals

The fewest decimal digits that read back as a given number, and among those the nearest. The reals
that round to a number form an interval, closed when the significand is even. On the grid of `n`
significant digits only the two neighbours of the number need to be tried.
-/

namespace ClassInference

/-- The decimal `0.d₁d₂… * 10 ^ point`, its first digit not zero. -/
structure Decimal where
  digits : List Char
  point : Int
deriving Repr, DecidableEq

namespace Decimal

/-- A magnitude `quarter * unit / 4`, where the unit in the last place is `num / den`; the interval
of reals that round to it reaches down to `low` quarters and up to `high` quarters. -/
structure Interval where
  low : Nat
  middle : Nat
  high : Nat
  closed : Bool
  num : Nat
  den : Nat

/-- The interval of a number: the step below a power of two is half as wide. -/
def Interval.of (x : Binary64) : Interval :=
  let m := x.significand
  let narrow := m = Nat.pow 2 52 ∧ -1074 < x.exponent
  let unit : Nat × Nat := match x.exponent with
    | .ofNat e => (Nat.pow 2 e, 4)
    | .negSucc e => (1, 4 * Nat.pow 2 (e + 1))
  { low := if narrow then 4 * m - 1 else 4 * m - 2
    middle := 4 * m
    high := 4 * m + 2
    closed := m % 2 = 0
    num := unit.1
    den := unit.2 }

/-- A grid of decimals: multiples of `10 ^ power`, against the same denominator as an interval. -/
def gridStep (power : Int) : Nat × Nat :=
  match power with
  | .ofNat p => (Nat.pow 10 p, 1)
  | .negSucc p => (1, Nat.pow 10 (p + 1))

/-- Whether the decimal `d * 10 ^ power` rounds to the number. -/
def Interval.holds (i : Interval) (power : Int) (d : Nat) : Bool :=
  let step := gridStep power
  let point := d * step.1 * i.den
  let low := i.low * i.num * step.2
  let high := i.high * i.num * step.2
  if i.closed then low ≤ point && point ≤ high else low < point && point < high

/-- The point of the grid at or below the number. -/
def Interval.below (i : Interval) (power : Int) : Nat :=
  let step := gridStep power
  i.middle * i.num * step.2 / (step.1 * i.den)

/-- Whether the number is nearer to the grid point `d` than to the one after it. -/
def Interval.nearerBelow (i : Interval) (power : Int) (d : Nat) : Bool :=
  let step := gridStep power
  2 * (i.middle * i.num * step.2) < (2 * d + 1) * step.1 * i.den

/-- The nearest point of the grid that rounds to the number, if one does. -/
def Interval.onGrid? (i : Interval) (power : Int) : Option Nat :=
  let d := i.below power
  match i.holds power d, i.holds power (d + 1) with
  | true, true => some (if i.nearerBelow power d then d else d + 1)
  | true, false => some d
  | false, true => some (d + 1)
  | false, false => none

/-- The least `point` with the magnitude below `10 ^ point`. Every magnitude is at least
`10 ^ -330`. -/
def Interval.point (i : Interval) : Int :=
  let scaled := i.middle * i.num * Nat.pow 10 330 / i.den
  Int.ofNat (Nat.toDigits 10 scaled).length - 330

/-- Digits without the zeros that end them. -/
def trimZeros (digits : List Char) : List Char :=
  (digits.reverse.dropWhile (· = '0')).reverse

/-- The shortest decimal for the magnitude of a number other than zero. Seventeen digits always
suffice. -/
def shortest (x : Binary64) : Decimal :=
  let i := Interval.of x
  let point := i.point
  let found := (List.range 17).findSome? fun n =>
    let power := point - Int.ofNat (n + 1)
    (i.onGrid? power).map fun d => (d, power)
  match found with
  | some (d, power) =>
    let digits := Nat.toDigits 10 d
    ⟨trimZeros digits, power + digits.length⟩
  | none => ⟨['0'], 1⟩

end Decimal

end ClassInference
