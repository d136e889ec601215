import ClassInference.Json.Container
import ClassInference.OrderedTable

/-!
# JSON documents

A document is one value with white space around it. The reader keeps all members of an object;
`collapse` then lets a key that comes twice keep its first place and its last value.
-/

namespace ClassInference.Json

/-- How deep brackets may nest, the first level that is refused. -/
def depthLimit : Nat := 128

namespace Reader

/-- A value; `depth` counts down to the level of brackets that is refused. -/
def value : Nat → Decoder Value
  | 0 => fun path => located path (failPeek GrammarFault.tooDeep)
  | depth + 1 => fun path => located path do
    skipSpace
    match ← peek with
    | none => failPeek GrammarFault.endInValue
    | some 'n' =>
      skip
      identifier ['u', 'l', 'l']
      return .null
    | some 't' =>
      skip
      identifier ['r', 'u', 'e']
      return .bool true
    | some 'f' =>
      skip
      identifier ['a', 'l', 's', 'e']
      return .bool false
    | some '-' =>
      skip
      return .number (← number true)
    | some '"' =>
      skip
      return .string (← stringBody)
    | some '[' =>
      if depth = 0 then failPeek GrammarFault.tooDeep
      else
        let items ← enclosed (foldItems path (fun acc path => do
          return (← value depth path) :: acc) []) closeList
        return .array items.reverse
    | some '{' =>
      if depth = 0 then failPeek GrammarFault.tooDeep
      else
        let members ← enclosed (foldMembers path (fun acc k => do
          colon
          return (k, ← value depth (.key k :: path)) :: acc) []) closeObject
        return .object members.reverse
    | some c =>
      if c.isDigit then return .number (← number false)
      else failPeek GrammarFault.expectedValue

/-- A value with nothing but white space after it. -/
def document : Reader Value := do
  let v ← value depthLimit []
  skipSpace
  match ← peek with
  | none => return v
  | some _ => failPeek GrammarFault.trailingCharacters

end Reader

mutual

/-- The value with every key of an object once. -/
def Value.collapse : Value → Value
  | .array items => .array (collapseItems items)
  | .object members => .object (OrderedTable.ofList (collapseMembers members)).entries
  | v => v

def Value.collapseItems : List Value → List Value
  | [] => []
  | v :: vs => v.collapse :: collapseItems vs

def Value.collapseMembers : List (String × Value) → List (String × Value)
  | [] => []
  | (k, v) :: rest => (k, v.collapse) :: collapseMembers rest

end

/-- Read a document. -/
def parse (text : String) : Except SyntaxError Value :=
  match Reader.document.run text.toUTF8 with
  | .ok v => .ok v.collapse
  | .error (e, _) => .error e

end ClassInference.Json
