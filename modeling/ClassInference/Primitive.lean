/-!
# Primitive types

The five primitive types form a lattice: `int`, `long` and `double` widen in that order, `boolean`
stands apart, and `string` is above everything.
-/

namespace ClassInference

inductive Primitive where
  | boolean
  | int
  | long
  | double
  | string
deriving Repr, DecidableEq

namespace Primitive

def all : List Primitive := [boolean, int, long, double, string]

/-- The neutral spelling. -/
def name : Primitive → String
  | boolean => "boolean"
  | int => "int"
  | long => "long"
  | double => "double"
  | string => "string"

def ofName? (s : String) : Option Primitive := all.find? (·.name == s)

theorem ofName?_name (p : Primitive) : ofName? p.name = some p := by cases p <;> decide

/-- `a` widens to `b`. -/
def widens : Primitive → Primitive → Bool
  | _, string => true
  | boolean, boolean => true
  | int, int | int, long | int, double => true
  | long, long | long, double => true
  | double, double => true
  | _, _ => false

instance : LE Primitive := ⟨fun a b => a.widens b = true⟩

instance (a b : Primitive) : Decidable (a ≤ b) := inferInstanceAs (Decidable (_ = _))

def isNumeric : Primitive → Bool
  | int | long | double => true
  | boolean | string => false

/-- The position in the numeric chain. -/
def width : Primitive → Nat
  | int => 0
  | long => 1
  | double => 2
  | boolean | string => 3

/-- The common type of two: the wider of two numbers, otherwise `string` unless they agree. -/
def join (a b : Primitive) : Primitive :=
  if a = b then a
  else if a.isNumeric && b.isNumeric then (if a.width ≤ b.width then b else a)
  else string

end Primitive

end ClassInference
