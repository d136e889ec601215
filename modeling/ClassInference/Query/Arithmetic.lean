import ClassInference.OrderedTable
import ClassInference.Query.Datum

/-!
# Arithmetic of filters

Operations on data. Integers stay exact as long as the result fits a word; any other number counts
as the double that stands for it.
-/

namespace ClassInference.Query

inductive Comparison where
  | eq
  | ne
  | lt
  | le
  | gt
  | ge
deriving Repr, DecidableEq

inductive Arithmetic where
  | add
  | sub
  | mul
  | div
  | rem
deriving Repr, DecidableEq

def Comparison.holds : Comparison → Datum → Datum → Bool
  | eq, a, b => a.order b == .eq
  | ne, a, b => a.order b != .eq
  | lt, a, b => a.order b == .lt
  | le, a, b => a.order b != .gt
  | gt, a, b => a.order b == .gt
  | ge, a, b => a.order b != .lt

def Arithmetic.text : Arithmetic → String
  | add => "+"
  | sub => "-"
  | mul => "*"
  | div => "/"
  | rem => "%"

namespace Arithmetic

/-! ### Numbers -/

def onDoubles : Arithmetic → Double → Double → Double
  | add => .add
  | sub => .sub
  | mul => .mul
  | div => .div
  | rem => .rem

/-- The exact result for integers, none where that is not an integer. -/
def onIntegers? : Arithmetic → Int → Int → Option Int
  | add, m, n => some (m + n)
  | sub, m, n => some (m - n)
  | mul, m, n => some (m * n)
  | div, _, _ => none
  | rem, m, n => if n = 0 then none else some (m.tmod n)

/-- Integers have no remainder by zero. -/
def onOperands? (op : Arithmetic) (a b : Datum.Operand) : Option Datum :=
  match a, b with
  | .integer m, .integer n =>
    match op, op.onIntegers? m n with
    | rem, none => none
    | _, some r =>
      some (if h : Word r then .integer r h else .double (op.onDoubles (.ofInt m) (.ofInt n)))
    | _, none => some (.double (op.onDoubles (.ofInt m) (.ofInt n)))
  | a, b => some (.double (op.onDoubles a.toDouble b.toDouble))

/-! ### Objects and texts -/

mutual

/-- The first object with the members of the second; where both hold an object under a key, these
are merged in turn. -/
def mergeMembers (t : OrderedTable Datum) : List (String × Datum) → OrderedTable Datum
  | [] => t
  | (k, d) :: ms => mergeMembers (t.insert k (mergeInto (t.get? k) d)) ms

/-- What stands under a key after a merge. -/
def mergeInto (old : Option Datum) : Datum → Datum
  | .object new =>
    match old with
    | some (.object ms) => .object (mergeMembers (.ofList ms) new).entries
    | _ => .object new
  | new => new

end

/-- A text cut at every occurrence of a separator that is not empty. -/
def splitText (sep : List Char) (skip : Nat) (piece : List Char) : List Char → List String
  | [] => [String.ofList piece.reverse]
  | c :: cs =>
    match skip with
    | n + 1 => splitText sep n piece cs
    | 0 =>
      if sep.isPrefixOf (c :: cs) then
        String.ofList piece.reverse :: splitText sep (sep.length - 1) [] cs
      else splitText sep 0 (c :: piece) cs

/-- The pieces of a text; an empty separator cuts between all characters. -/
def split (s sep : String) : List String :=
  if s.isEmpty then []
  else if sep.isEmpty then s.toList.map fun c => String.ofList [c]
  else splitText sep.toList 0 [] s.toList

/-- A text so many times over; null for none. -/
def times (s : String) (n : Int) : Datum :=
  if n ≤ 0 then .null else .string (String.join (List.replicate n.toNat s))

/-! ### All data -/

/-- The result of an operation, none if it is not defined for its operands. -/
def result? (op : Arithmetic) (a b : Datum) : Option Datum :=
  match op, a, b with
  | add, .null, d | add, d, .null => some d
  | add, .string s, .string t => some (.string (s ++ t))
  | add, .array as, .array bs => some (.array (as ++ bs))
  | add, .object as, .object bs => some (.object (OrderedTable.ofList (as ++ bs)).entries)
  | sub, .array as, .array bs =>
    some (.array (as.filter fun a => !bs.any fun b => a.order b == .eq))
  | mul, .string s, .integer n _ | mul, .integer n _, .string s => some (times s n)
  | mul, .object as, .object bs => some (.object (mergeMembers (.ofList as) bs).entries)
  | div, .string s, .string t => some (.array ((split s t).map .string))
  | op, a, b =>
    match a.operand?, b.operand? with
    | some x, some y => op.onOperands? x y
    | _, _ => none

/-- A datum as a complaint about arithmetic shows it: a number counts as its value. -/
def shown : Datum → String
  | .numeral _ x => (Datum.double x).text
  | d => d.text

/-- Why an operation has no result. -/
def complaint (op : Arithmetic) (a b : Datum) : String :=
  String.join ["cannot calculate ", shown a, " ", op.text, " ", shown b]

end Arithmetic

/-- The opposite number. The least integer of a word is its own opposite. -/
def Datum.opposite? : Datum → Option Datum
  | .integer n _ => some (.ofInt ((-n).bmod (Nat.pow 2 64)))
  | .double x | .numeral _ x => some (.double x.neg)
  | _ => none

end ClassInference.Query
