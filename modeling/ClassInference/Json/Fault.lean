import ClassInference.Decimal.Notation
import ClassInference.Text.Quoted

/-!
# Faults of JSON texts

What can be wrong with a text: it breaks the grammar, or a value has not the shape its reader
expects. A fault is a cause; `message` gives its wording, and `SyntaxError` adds where it was found.
-/

namespace ClassInference.Json

/-- Ways to break the grammar. -/
inductive GrammarFault where
  | endInValue
  | endInString
  | endInList
  | endInObject
  | expectedColon
  | expectedListComma
  | expectedObjectComma
  | expectedIdentifier
  | expectedValue
  | keyNotString
  | invalidEscape
  | invalidNumber
  | numberOutOfRange
  | invalidCodePoint
  | controlCharacter
  | loneSurrogate
  | unfinishedSurrogate
  | trailingComma
  | trailingCharacters
  | tooDeep
deriving Repr, DecidableEq

def GrammarFault.message : GrammarFault → String
  | .endInValue => "EOF while parsing a value"
  | .endInString => "EOF while parsing a string"
  | .endInList => "EOF while parsing a list"
  | .endInObject => "EOF while parsing an object"
  | .expectedColon => "expected `:`"
  | .expectedListComma => "expected `,` or `]`"
  | .expectedObjectComma => "expected `,` or `\x7d`"
  | .expectedIdentifier => "expected ident"
  | .expectedValue => "expected value"
  | .keyNotString => "key must be a string"
  | .invalidEscape => "invalid escape"
  | .invalidNumber => "invalid number"
  | .numberOutOfRange => "number out of range"
  | .invalidCodePoint => "invalid unicode code point"
  | .controlCharacter => "control character (\\u0000-\\u001F) found while parsing a string"
  | .loneSurrogate => "lone leading surrogate in hex escape"
  | .unfinishedSurrogate => "unexpected end of hex escape"
  | .trailingComma => "trailing comma"
  | .trailingCharacters => "trailing characters"
  | .tooDeep => "recursion limit exceeded"

/-- What was met where something else was expected. -/
inductive Found where
  | null
  | bool (b : Bool)
  | integer (n : Int)
  | float (x : Binary64)
  | string (s : String)
  | sequence
  | map
deriving Repr, DecidableEq

def Found.message : Found → String
  | .null => "null"
  | .bool b => "boolean `" ++ (if b then "true" else "false") ++ "`"
  | .integer n => "integer `" ++ toString n ++ "`"
  | .float x => "floating point `" ++ Decimal.render .json x ++ "`"
  | .string s => "string " ++ Text.quoted s
  | .sequence => "sequence"
  | .map => "map"

inductive Fault where
  | grammar (fault : GrammarFault)
  /-- A value of another kind. -/
  | kind (found : Found) (expected : String)
  /-- A value of the right kind outside its range. -/
  | range (found : Found) (expected : String)
  /-- A sequence that stands for a record ends before its required elements. -/
  | length (count : Nat) (expected : String)
  | unknownField (name : String) (known : List String)
  | duplicateField (name : String)
  | missingField (name : String)
  | noVariant (choice : String)
deriving Repr, DecidableEq

instance : Coe GrammarFault Fault := ⟨.grammar⟩

private def backquoted (s : String) : String := "`" ++ s ++ "`"

def Fault.message : Fault → String
  | .grammar f => f.message
  | .kind found expected => "invalid type: " ++ found.message ++ ", expected " ++ expected
  | .range found expected => "invalid value: " ++ found.message ++ ", expected " ++ expected
  | .length count expected => "invalid length " ++ toString count ++ ", expected " ++ expected
  | .unknownField name known =>
    "unknown field " ++ backquoted name ++ ", expected one of " ++
      ", ".intercalate (known.map backquoted)
  | .duplicateField name => "duplicate field " ++ backquoted name
  | .missingField name => "missing field " ++ backquoted name
  | .noVariant choice => "data did not match any variant of untagged enum " ++ choice

/-- A fault with its place: lines count from one, columns are the bytes of the line read so far. -/
structure SyntaxError where
  fault : Fault
  line : Nat
  column : Nat
deriving Repr, DecidableEq

def SyntaxError.message (e : SyntaxError) : String :=
  e.fault.message ++ " at line " ++ toString e.line ++ " column " ++ toString e.column

/-- The place of the byte at `index`. -/
def SyntaxError.at (text : ByteArray) (index : Nat) (fault : Fault) : SyntaxError :=
  let before := text.toList.take index
  { fault
    line := before.count 10 + 1
    column := (before.reverse.takeWhile (· ≠ 10)).length }

end ClassInference.Json
