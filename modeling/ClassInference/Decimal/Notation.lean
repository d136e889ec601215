import ClassInference.Decimal.Shortest

/-!
# Decimal notation of binary64 numbers

How the shortest digits of a number are laid out. A style says between which powers of ten a number
is written positionally and how an exponent is spelled; the two styles of this library differ only
in those fields.
-/

namespace ClassInference.Decimal

/-- The decisions of a notation. A number is positional when its decimal exponent lies from `least`
up to but excluding `limit`. -/
structure Style where
  least : Int
  limit : Int
  plusSign : Bool
deriving Repr, DecidableEq

/-- Observed fractions: positional from `1e-4` up to `1e16`, then a bare exponent. -/
def Style.observed : Style := ⟨-4, 16, false⟩

/-- Numbers in JSON texts and in diagnostics: positional from `1e-5` up to `1e16`, then an exponent
with its sign. -/
def Style.json : Style := ⟨-5, 16, true⟩

/-- Digits with the point in its place, at least one digit on either side of it. -/
def positional (d : Decimal) : List Char :=
  match d.point with
  | .ofNat p =>
    if p = 0 then ['0', '.'] ++ d.digits
    else if d.digits.length ≤ p then
      d.digits ++ List.replicate (p - d.digits.length) '0' ++ ['.', '0']
    else d.digits.take p ++ ['.'] ++ d.digits.drop p
  | .negSucc p => ['0', '.'] ++ List.replicate (p + 1) '0' ++ d.digits

/-- One digit, the rest after a point, and the exponent. -/
def scientific (style : Style) (d : Decimal) : List Char :=
  let exponent := d.point - 1
  let sign := if exponent < 0 then ['-'] else if style.plusSign then ['+'] else []
  let mantissa := match d.digits with
    | [] => ['0']
    | [c] => [c]
    | c :: rest => c :: '.' :: rest
  mantissa ++ ['e'] ++ sign ++ Nat.toDigits 10 exponent.natAbs

/-- The text of a number. -/
def render (style : Style) (x : Binary64) : String :=
  let sign := if x.negative then ['-'] else []
  if x.significand = 0 then String.ofList (sign ++ ['0', '.', '0'])
  else
    let d := shortest x
    let body :=
      if style.least ≤ d.point - 1 ∧ d.point - 1 < style.limit then positional d
      else scientific style d
    String.ofList (sign ++ body)

end ClassInference.Decimal
