import ClassInference.Binary64.Arithmetic
import ClassInference.Decimal.Notation

/-!
# Doubles

Finite binary64 numbers with the two infinities and the undefined result, so that every operation
has an answer: a result beyond the finite range is infinite, and one that has no value is undefined.
-/

namespace ClassInference

inductive Double where
  | finite (x : Binary64)
  | infinite (negative : Bool)
  | undefined
deriving Repr, DecidableEq

namespace Double

/-- A rounded result with its sign. -/
def ofRounded (negative : Bool) : Option Binary64 → Double
  | some x => finite x
  | none => infinite negative

/-- The double nearest to an integer. -/
def ofInt (n : Int) : Double := ofRounded (decide (n < 0)) (Binary64.ofInt? n)

/-- The double nearest to `digits * 10 ^ power`. -/
def ofDecimal (digits : Nat) (power : Int) : Double :=
  ofRounded false (Binary64.ofDecimal? false digits power)

def neg : Double → Double
  | finite x => finite x.neg
  | infinite negative => infinite !negative
  | undefined => undefined

def abs : Double → Double
  | finite x => finite x.abs
  | infinite _ => infinite false
  | undefined => undefined

/-- Only numbers of one sign have a sum beyond the finite range. -/
def add : Double → Double → Double
  | finite x, finite y => ofRounded x.negative (x.add? y)
  | infinite a, infinite b => if a = b then infinite a else undefined
  | infinite a, finite _ | finite _, infinite a => infinite a
  | undefined, _ | _, undefined => undefined

def sub (a b : Double) : Double := a.add b.neg

def mul : Double → Double → Double
  | finite x, finite y => ofRounded (x.negative != y.negative) (x.mul? y)
  | infinite a, infinite b => infinite (a != b)
  | infinite a, finite x | finite x, infinite a =>
    if x.isZero then undefined else infinite (a != x.negative)
  | undefined, _ | _, undefined => undefined

def div : Double → Double → Double
  | finite x, finite y =>
    if !y.isZero then ofRounded (x.negative != y.negative) (x.div? y)
    else if x.isZero then undefined
    else infinite (x.negative != y.negative)
  | infinite a, finite y => infinite (a != y.negative)
  | finite x, infinite b => finite (.zero (x.negative != b))
  | infinite _, infinite _ => undefined
  | undefined, _ | _, undefined => undefined

/-- What is left of a division whose quotient is cut to an integer. -/
def rem : Double → Double → Double
  | finite x, finite y => if y.isZero then undefined else ofRounded x.negative (x.rem? y)
  | finite x, infinite _ => finite x
  | infinite _, _ => undefined
  | undefined, _ | _, undefined => undefined

/-- The order of doubles. The undefined one comes before everything, even before itself. -/
def order : Double → Double → Ordering
  | undefined, _ => .lt
  | _, undefined => .gt
  | finite x, finite y => x.order y
  | infinite a, infinite b => compare b a
  | infinite a, finite _ => if a then .lt else .gt
  | finite _, infinite b => if b then .gt else .lt

/-- The text of a finite double. -/
def text? : Double → Option String
  | finite x => some (Decimal.render .observed x)
  | _ => none

end Double

end ClassInference
