import ClassInference.Dialect
import ClassInference.Json.Value

/-!
# Dialects from JSON

A dialect given in full, as an object of its fields or as a list of all of them in order. Keys that
are not fields are passed over; a field that is written twice, or left out without being optional,
makes the value no dialect.
-/

namespace ClassInference

open Json (Value)

namespace Dialect

/-- The fields of a record found in a value, by position. A missing field is none. -/
def recordFields? (names : List String) : Value → Option (List (Option Value))
  | .object members =>
    let found := names.map fun n => (members.filter (·.1 == n)).map Prod.snd
    if found.all (·.length ≤ 1) then some (found.map (·.head?)) else none
  | .array items =>
    if items.length = names.length then some (items.map some) else none
  | _ => none

def string? : Value → Option String
  | .string s => some s
  | _ => none

def required? (v : Option Value) : Option String := v.bind string?

/-- A text that may be null or left out. -/
def optional? : Option Value → Option (Option String)
  | none | some .null => some none
  | some v => (string? v).map some

def baseCall? : Value → Option BaseCall
  | .object [("statement", t)] => (string? t).map .statement
  | .object [("initializer", t)] => (string? t).map .initializer
  | _ => none

def spelling? (v : Value) : Option Spelling := do
  match ← recordFields? ["plain", "boxed"] v with
  | [plain, boxed] => return ⟨← required? plain, ← required? boxed⟩
  | _ => none

/-- The spellings by primitive; the last one of a primitive counts. -/
def spellings? : Value → Option (List (Primitive × Spelling))
  | .object members => do
    let all ← members.mapM fun m => do return (← Primitive.ofName? m.1, ← spelling? m.2)
    return Primitive.all.filterMap fun p => (all.reverse.lookup p).map fun s => (p, s)
  | _ => none

/-- The reserved words, none if they are left out. -/
def words? : Option Value → Option (List String)
  | none => some []
  | some (.array items) => items.mapM string?
  | some _ => none

def fieldNames : List String := [
  "file_extension", "builtin_namespace", "reserved_prefix", "string_type", "line_comment",
  "package_decl", "import_decl", "type_import", "class_decl", "enum_decl", "extends_clause",
  "field_decl", "constructor_decl", "parameter", "base_call", "assignment", "accessor",
  "serialized_name", "serialized_name_import", "list_type", "list_import", "date_type",
  "date_import", "primitives", "keywords", "keyword_escape"]

/-- Read a dialect. -/
def ofValue? (v : Value) : Option Dialect := do
  let values ← recordFields? fieldNames v
  let fields := fieldNames.zip values
  let field := fun name => (fields.lookup name).bind id
  return {
    fileExtension := ← required? (field "file_extension")
    builtinPackage := ← required? (field "builtin_namespace")
    reservedPrefix := ← required? (field "reserved_prefix")
    stringType := ← required? (field "string_type")
    lineComment := ← required? (field "line_comment")
    packageDecl := ← required? (field "package_decl")
    importDecl := ← required? (field "import_decl")
    typeImport := ← required? (field "type_import")
    classDecl := ← required? (field "class_decl")
    enumDecl := ← required? (field "enum_decl")
    extendsClause := ← required? (field "extends_clause")
    fieldDecl := ← required? (field "field_decl")
    constructorDecl := ← required? (field "constructor_decl")
    parameter := ← required? (field "parameter")
    baseCall := ← (field "base_call").bind baseCall?
    assignment := ← required? (field "assignment")
    accessor := ← required? (field "accessor")
    wireNameMark := ← required? (field "serialized_name")
    wireNameImport := ← optional? (field "serialized_name_import")
    listType := ← required? (field "list_type")
    listImport := ← optional? (field "list_import")
    dateType := ← required? (field "date_type")
    dateImport := ← optional? (field "date_import")
    primitives := ← (field "primitives").bind spellings?
    keywords := ← words? (field "keywords")
    keywordEscape := ← required? (field "keyword_escape") }

end Dialect

end ClassInference
