import ClassInference.Json.Value
import ClassInference.Primitive

/-!
# Observations

What a primitive value under a key tells about its type. Numbers are judged by their value: a double
without fraction that a 64-bit integer could hold counts as whole. Arrays are looked through at any
depth; `null` and objects leave no observation.
-/

namespace ClassInference

inductive Observation where
  | bool (b : Bool)
  | whole (n : Int)
  | fraction (x : Binary64)
  | text (s : String)
deriving Repr, DecidableEq

namespace Observation

open Json (Number Value)

def ofNumber : Number → Observation
  | .whole n _ => whole n
  | .binary x =>
    match x.whole? with
    | some n => if -Nat.pow 2 63 ≤ n ∧ n ≤ Nat.pow 2 63 then whole n else fraction x
    | none => fraction x

/-- The observation of a primitive value. -/
def ofValue? : Value → Option Observation
  | .bool b => some (bool b)
  | .number n => some (ofNumber n)
  | .string s => some (text s)
  | .null | .array _ | .object _ => none

mutual

/-- The observations of a value, in order. -/
def leaves : Value → List Observation
  | .array xs => leavesOfItems xs
  | v => (ofValue? v).toList

def leavesOfItems : List Value → List Observation
  | [] => []
  | x :: xs => leaves x ++ leavesOfItems xs

end

mutual

/-- The objects of a value, arrays looked through, in order. -/
def objects : Value → List (List (String × Value))
  | .object members => [members]
  | .array xs => objectsOfItems xs
  | _ => []

def objectsOfItems : List Value → List (List (String × Value))
  | [] => []
  | x :: xs => objects x ++ objectsOfItems xs

end

def isArray : Value → Bool
  | .array _ => true
  | _ => false

mutual

/-- Whether an object is found in a value, arrays looked through. -/
def hasObject : Value → Bool
  | .object _ => true
  | .array xs => hasObjectInItems xs
  | _ => false

def hasObjectInItems : List Value → Bool
  | [] => false
  | x :: xs => hasObject x || hasObjectInItems xs

end

/-- The narrowest numeric type that holds a whole number. -/
def classifyWhole (n : Int) : Primitive :=
  if -Nat.pow 2 31 ≤ n ∧ n < Nat.pow 2 31 then .int
  else if -Nat.pow 2 63 ≤ n ∧ n < Nat.pow 2 63 then .long
  else .double

/-- Texts that spell a truth value, in any case. -/
def isBooleanText (s : String) : Bool :=
  let letters := s.toList.map Char.toLower
  letters == "true".toList || letters == "false".toList

def classify : Observation → Primitive
  | bool _ => .boolean
  | whole n => classifyWhole n
  | fraction _ => .double
  | text s => if isBooleanText s then .boolean else .string

/-- Widen `current` by one more type. -/
def widen (current : Option Primitive) (p : Primitive) : Option Primitive :=
  some (match current with
    | none => p
    | some q => q.join p)

/-- The common type of `current` and all observations; none if there is nothing to go by. Nothing
is above `string`, so the search ends there. -/
def infer : List Observation → Option Primitive → Option Primitive
  | [], current => current
  | o :: rest, current =>
    let widened := widen current o.classify
    if widened = some .string then widened else infer rest widened

end Observation

end ClassInference
