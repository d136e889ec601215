import ClassInference.Json.Value
import ClassInference.Text.Split

/-!
# JSON pointers

A pointer is empty, or a row of tokens with a slash before each. A token names a member of an object
or the position of an item; inside it `~1` stands for a slash and `~0` for a tilde.
-/

namespace ClassInference.Json

namespace Pointer

/-- The text that a token stands for. -/
def unescape : List Char → List Char
  | [] => []
  | '~' :: '1' :: cs => '/' :: unescape cs
  | '~' :: '0' :: cs => '~' :: unescape cs
  | c :: cs => c :: unescape cs

/-- The position that a token names: digits without a needless zero in front. -/
def position? (token : List Char) : Option Nat :=
  if token = [] ∨ ¬ token.all Char.isDigit ∨ (token.head? = some '0' ∧ token.length ≠ 1) then none
  else some (token.foldl (fun n c => 10 * n + (c.toNat - '0'.toNat)) 0)

/-- The tokens of a pointer. -/
def tokens? (pointer : String) : Option (List (List Char)) :=
  match Text.split (· == '/') pointer.toList with
  | [[]] => some []
  | [] :: tokens => some (tokens.map unescape)
  | _ => none

/-- The part of a value that a token names. -/
def child? (value : Value) (token : List Char) : Option Value :=
  match value with
  | .object members => members.lookup (String.ofList token)
  | .array items => (position? token).bind (items[·]?)
  | _ => none

end Pointer

/-- The part of a value that a pointer names. -/
def Value.at? (value : Value) (pointer : String) : Option Value :=
  (Pointer.tokens? pointer).bind fun tokens => tokens.foldlM Pointer.child? value

end ClassInference.Json
