import ClassInference.Json.Container
import ClassInference.Json.Ignored

/-!
# Decoding records

Reading a text straight into typed values, so that a value of the wrong kind is reported where it
stands. A record is written as an object, or as a list of its fields in order.
-/

namespace ClassInference.Json

namespace Decoder

/-- A value of another kind than expected, its first byte being next. Scalars are read, brackets are
not. -/
def mismatch {α : Type} (expected : String) : Reader α := do
  let found ← match ← Reader.peek with
    | none => Reader.failPeek GrammarFault.endInValue
    | some 'n' => do
      Reader.skip
      Reader.identifier ['u', 'l', 'l']
      pure Found.null
    | some 't' => do
      Reader.skip
      Reader.identifier ['r', 'u', 'e']
      pure (Found.bool true)
    | some 'f' => do
      Reader.skip
      Reader.identifier ['a', 'l', 's', 'e']
      pure (Found.bool false)
    | some '-' => do
      Reader.skip
      ofNumber <$> Reader.number true
    | some '"' => do
      Reader.skip
      Found.string <$> Reader.stringBody
    | some '[' => pure Found.sequence
    | some '{' => pure Found.map
    | some c =>
      if c.isDigit then ofNumber <$> Reader.number false
      else Reader.failPeek GrammarFault.expectedValue
  Reader.failUnplaced (.kind found expected)
where
  ofNumber : Number → Found
    | .whole n _ => .integer n
    | .binary x => .float x

/-- A value that is told by its first byte. -/
def byFirst {α : Type} (expected : String) (read : Char → Option (Reader α)) : Decoder α :=
  fun path => Reader.located path (Reader.placed do
    Reader.skipSpace
    match ← Reader.peek with
    | none => Reader.failPeek GrammarFault.endInValue
    | some c => (read c).getD (mismatch expected))

def string : Decoder String :=
  byFirst "a string" fun c =>
    if c = '"' then some do
      Reader.skip
      Reader.stringBody
    else none

def bool : Decoder Bool :=
  byFirst "a boolean" fun c =>
    match c with
    | 't' => some do
      Reader.skip
      Reader.identifier ['r', 'u', 'e']
      return true
    | 'f' => some do
      Reader.skip
      Reader.identifier ['a', 'l', 's', 'e']
      return false
    | _ => none

/-- A count: an integer that is not negative. -/
def count : Decoder Nat :=
  byFirst "usize" fun c =>
    if c = '-' then some do
      Reader.skip
      judge (← Reader.number true)
    else if c.isDigit then some do judge (← Reader.number false)
    else none
where
  judge : Number → Reader Nat
    | .whole n _ =>
      if n < 0 then Reader.failUnplaced (.range (.integer n) "usize") else return n.toNat
    | .binary x => Reader.failUnplaced (.kind (.float x) "usize")

/-- A value or null. -/
def nullable {α : Type} (d : Decoder α) : Decoder (Option α) := fun path =>
  Reader.located path do
    Reader.skipSpace
    if (← Reader.peek) = some 'n' then
      Reader.skip
      Reader.identifier ['u', 'l', 'l']
      return none
    else return some (← d path)

def list {α : Type} (d : Decoder α) : Decoder (List α) := fun path =>
  byFirst "a sequence" (fun c =>
    if c = '[' then some do
      let items ← Reader.enclosed
        (Reader.foldItems path (fun acc path => do return (← d path) :: acc) []) Reader.closeList
      return items.reverse
    else none) path

end Decoder

/-- A field of a record under construction. -/
structure RecordField (σ : Type) where
  name : String
  required : Bool
  read : σ → Decoder σ

/-- A record: what it is called, its fields in order, whether other keys are refused, and the values
of the fields that are left out. -/
structure RecordShape (σ : Type) where
  name : String
  closed : Bool
  fields : List (RecordField σ)
  start : σ

namespace RecordShape

variable {σ : Type}

private def readMember (shape : RecordShape σ) (path : List Step) :
    List String × σ → String → Reader (List String × σ)
  | (seen, s), k =>
    match shape.fields.find? (·.name == k) with
    | some f =>
      if seen.contains k then Reader.failUnplaced (.duplicateField k)
      else do
        Reader.colon
        return (k :: seen, ← f.read s (.key k :: path))
    | none =>
      if shape.closed then
        Reader.located (.key k :: path)
          (Reader.failUnplaced (.unknownField k (shape.fields.map (·.name))))
      else do
        Reader.colon
        Reader.located (.key k :: path) Reader.ignored
        return (seen, s)

/-- The members of an object as the fields of a record. -/
def members (shape : RecordShape σ) (path : List Step) : Reader σ := do
  let (seen, s) ← Reader.foldMembers path (shape.readMember path) ([], shape.start)
  match shape.fields.find? fun f => f.required && !seen.contains f.name with
  | some f => Reader.failUnplaced (.missingField f.name)
  | none => return s

/-- The items of a list as the fields of a record, from the field number `i` on. -/
def items (shape : RecordShape σ) (path : List Step) : Nat → List (RecordField σ) → σ → Reader σ
  | _, [], s => return s
  | i, f :: rest, s => do
    if ← Reader.moreItems (i == 0) then
      shape.items path (i + 1) rest (← f.read s (.index i :: path))
    else if f.required then
      Reader.failUnplaced (.length i
        ("struct " ++ shape.name ++ " with " ++ toString shape.fields.length ++ " elements"))
    else shape.items path (i + 1) rest s

def decode (shape : RecordShape σ) : Decoder σ := fun path =>
  Decoder.byFirst ("struct " ++ shape.name) (fun c =>
    match c with
    | '[' => some (Reader.enclosed (shape.items path 0 shape.fields shape.start) Reader.closeList)
    | '{' => some (Reader.enclosed (shape.members path) Reader.closeObject)
    | _ => none) path

end RecordShape

end ClassInference.Json
