import ClassInference.Binary64

/-!
# JSON values

Numbers keep what their literal fixed: an integer that fits a signed or unsigned 64-bit word, or
the nearest finite double. Objects are lists of members in document order.
-/

namespace ClassInference.Json

/-- Integers that a 64-bit word holds, signed or unsigned. -/
def Number.Fits (n : Int) : Prop := -Nat.pow 2 63 ≤ n ∧ n < Nat.pow 2 64

instance (n : Int) : Decidable (Number.Fits n) := inferInstanceAs (Decidable (_ ∧ _))

inductive Number where
  | whole (n : Int) (fits : Number.Fits n)
  | binary (x : Binary64)
deriving Repr, DecidableEq

/-- The exact value. -/
def Number.value : Number → Rat
  | .whole n _ => n
  | .binary x => x.value

inductive Value where
  | null
  | bool (b : Bool)
  | number (n : Number)
  | string (s : String)
  | array (items : List Value)
  | object (members : List (String × Value))
deriving Repr

instance : Inhabited Value := ⟨.null⟩

/-- The value under the first member called `key`. -/
def Value.member? (key : String) : Value → Option Value
  | .object members => members.lookup key
  | _ => none

/-- A count as a JSON value. -/
def Value.ofNat (n : Nat) : Value :=
  if h : Number.Fits (Int.ofNat n) then .number (.whole (Int.ofNat n) h) else .null

end ClassInference.Json
