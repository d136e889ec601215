import ClassInference.Double
import ClassInference.Json.Document

/-!
# Data of filters

The values that a filter works on. They are JSON values with finer numbers: integers of a signed
word are exact, a result of arithmetic is an integer or a double, and any other number stays the
text that it was written as until arithmetic needs its value. Main definitions: the text of a datum
and the order of all data.
-/

namespace ClassInference.Query

open Json (Number Value)

/-- Integers that a signed 64-bit word holds. -/
def Word (n : Int) : Prop := -Nat.pow 2 63 ≤ n ∧ n < Nat.pow 2 63

instance (n : Int) : Decidable (Word n) := inferInstanceAs (Decidable (_ ∧ _))

inductive Datum where
  | null
  | bool (b : Bool)
  | integer (n : Int) (fits : Word n)
  | double (x : Double)
  /-- A number as it was written, and the double that stands for it in arithmetic. -/
  | numeral (text : String) (value : Double)
  | string (s : String)
  | array (items : List Datum)
  | object (members : List (String × Datum))
deriving Repr

namespace Datum

instance : Inhabited Datum := ⟨null⟩

/-- An integer, or the nearest double if it does not fit a word. -/
def ofInt (n : Int) : Datum := if h : Word n then integer n h else double (.ofInt n)

/-! ### JSON values -/

/-- A number of a JSON text. -/
def ofNumber : Number → Datum
  | .whole n _ => if h : Word n then integer n h else numeral (toString n) (.ofInt n)
  | .binary x => numeral (Decimal.render .json x) (.finite x)

mutual

def ofValue : Value → Datum
  | .null => null
  | .bool b => bool b
  | .number n => ofNumber n
  | .string s => string s
  | .array vs => array (ofValues vs)
  | .object ms => object (ofMembers ms)

def ofValues : List Value → List Datum
  | [] => []
  | v :: vs => ofValue v :: ofValues vs

def ofMembers : List (String × Value) → List (String × Datum)
  | [] => []
  | (k, v) :: ms => (k, ofValue v) :: ofMembers ms

end

/-! ### Text -/

/-- Short escapes are kept for quotes, backslashes, tabs and line ends. -/
def escape (c : Char) : List Char :=
  match c with
  | '"' => ['\\', '"']
  | '\\' => ['\\', '\\']
  | '\t' => ['\\', 't']
  | '\r' => ['\\', 'r']
  | '\n' => ['\\', 'n']
  | c =>
    if c.toNat < 0x20 then ['\\', 'u'] ++ (Nat.toDigits 16 c.toNat).leftpad 4 '0' else [c]

def quoted (s : String) : String := String.ofList ('"' :: (s.toList.flatMap escape ++ ['"']))

mutual

/-- The text of a datum. A double that is not finite has none of its own and shows as null. -/
def text : Datum → String
  | null => "null"
  | bool b => if b then "true" else "false"
  | integer n _ => toString n
  | double x => x.text?.getD "null"
  | numeral t _ => t
  | string s => quoted s
  | array ds => "[" ++ ",".intercalate (itemTexts ds) ++ "]"
  | object ms => "\x7b" ++ ",".intercalate (memberTexts ms) ++ "\x7d"

def itemTexts : List Datum → List String
  | [] => []
  | d :: ds => text d :: itemTexts ds

def memberTexts : List (String × Datum) → List String
  | [] => []
  | (k, d) :: ms => (quoted k ++ ":" ++ text d) :: memberTexts ms

end

/-- The JSON value that the text of a datum is read as. -/
def toValue (d : Datum) : Except Json.SyntaxError Value := Json.parse d.text

/-! ### Order -/

/-- Everything but null and false counts as true. -/
def isTrue : Datum → Bool
  | null | bool false => false
  | _ => true

/-- A number that arithmetic can work on. -/
inductive Operand where
  | integer (n : Int)
  | double (x : Double)
deriving Repr, DecidableEq

def operand? : Datum → Option Operand
  | integer n _ => some (.integer n)
  | double x | numeral _ x => some (.double x)
  | _ => none

/-- The double that stands for a number in mixed arithmetic. -/
def Operand.toDouble : Operand → Double
  | integer n => .ofInt n
  | double x => x

/-- Integers are compared exactly, any other numbers as doubles. -/
def Operand.order : Operand → Operand → Ordering
  | integer m, integer n => compare m n
  | a, b => a.toDouble.order b.toDouble

mutual

/-- The datum with the members of every object in the order of their keys. -/
def sortKeys : Datum → Datum
  | array ds => array (sortKeysOfItems ds)
  | object ms => object ((sortKeysOfMembers ms).mergeSort fun a b => decide (a.1 ≤ b.1))
  | d => d

def sortKeysOfItems : List Datum → List Datum
  | [] => []
  | d :: ds => sortKeys d :: sortKeysOfItems ds

def sortKeysOfMembers : List (String × Datum) → List (String × Datum)
  | [] => []
  | (k, d) :: ms => (k, sortKeys d) :: sortKeysOfMembers ms

end

/-- Kinds of data in their order. -/
def rank : Datum → Nat
  | null => 0
  | bool false => 1
  | bool true => 2
  | integer _ _ | double _ | numeral _ _ => 3
  | string _ => 4
  | array _ => 5
  | object _ => 6

def compareStrings (a b : String) : Ordering := compareOfLessAndEq a b

def compareKeys : List (String × Datum) → List (String × Datum) → Ordering
  | [], [] => .eq
  | [], _ :: _ => .lt
  | _ :: _, [] => .gt
  | a :: as, b :: bs => (compareStrings a.1 b.1).then (compareKeys as bs)

/-- Compare data that hold no other data. -/
def compareLeaves (a b : Datum) : Ordering :=
  match a.operand?, b.operand? with
  | some x, some y => x.order y
  | _, _ =>
    match a, b with
    | string s, string t => compareStrings s t
    | a, b => compare a.rank b.rank

mutual

/-- The order of data whose objects are sorted. -/
def compareSorted : Datum → Datum → Ordering
  | array as, array bs => compareItems as bs
  | object as, object bs => (compareKeys as bs).then (compareMembers as bs)
  | a, b => compareLeaves a b

def compareItems : List Datum → List Datum → Ordering
  | [], [] => .eq
  | [], _ :: _ => .lt
  | _ :: _, [] => .gt
  | a :: as, b :: bs => (compareSorted a b).then (compareItems as bs)

def compareMembers : List (String × Datum) → List (String × Datum) → Ordering
  | (_, a) :: as, (_, b) :: bs => (compareSorted a b).then (compareMembers as bs)
  | _, _ => .eq

end

/-- The order of all data. -/
def order (a b : Datum) : Ordering := compareSorted a.sortKeys b.sortKeys

end Datum

end ClassInference.Query
