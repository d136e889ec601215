import ClassInference.Template
import ClassInference.TypeRef

/-!
# Target dialects

The surface of a target language as data: templates for every construct, spellings of the primitive
types, imports and reserved words.
-/

namespace ClassInference

/-- How a primitive is written by itself, and as the element of a list. -/
structure Spelling where
  plain : String
  boxed : String
deriving Repr, DecidableEq

/-- How a constructor passes on its base's parameters: as its first statement, or as a clause of
its header. -/
inductive BaseCall where
  | statement (template : String)
  | initializer (template : String)
deriving Repr, DecidableEq

structure Dialect where
  fileExtension : String
  builtinPackage : String
  reservedPrefix : String
  stringType : String
  lineComment : String
  packageDecl : String
  importDecl : String
  typeImport : String
  classDecl : String
  enumDecl : String
  extendsClause : String
  fieldDecl : String
  constructorDecl : String
  parameter : String
  baseCall : BaseCall
  assignment : String
  accessor : String
  wireNameMark : String
  wireNameImport : Option String
  listType : String
  listImport : Option String
  dateType : String
  dateImport : Option String
  primitives : List (Primitive × Spelling)
  keywords : List String
  keywordEscape : String
deriving Repr, DecidableEq

namespace Dialect

/-- The spelling of a primitive; one that the dialect leaves out has its neutral name. -/
def primitive (d : Dialect) (p : Primitive) (boxed : Bool) : String :=
  match d.primitives.lookup p with
  | some s => if boxed then s.boxed else s.plain
  | none => p.name

def isKeyword (d : Dialect) (name : String) : Bool := d.keywords.contains name

/-- A name, escaped if it is a reserved word. -/
def identifier (d : Dialect) (name : String) : String :=
  if d.isKeyword name then fill d.keywordEscape [("name", name)] else name

/-- The text of a type, wrapped as a list if it is one. -/
def spellType (d : Dialect) (t : TypeRef) (isArray : Bool) : String :=
  let element := match t with
    | .primitive p => d.primitive p isArray
    | .named n => n
  if isArray then fill d.listType [("element", element)] else element

end Dialect

end ClassInference
