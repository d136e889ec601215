import ClassInference.Primitive

/-!
# Type references

The element type of a field: a primitive, or a type by name. Whether the field is a list is kept
beside it, not in it.
-/

namespace ClassInference

inductive TypeRef where
  | primitive (p : Primitive)
  | named (name : String)
deriving Repr, DecidableEq

namespace TypeRef

/-- A type name as a rule spells it: the neutral spellings mean the primitives. -/
def parse (name : String) : TypeRef :=
  match Primitive.ofName? name with
  | some p => primitive p
  | none => named name

/-- As `parse`, with one more spelling for the string primitive. -/
def parseAliased (stringType name : String) : TypeRef :=
  if name = stringType then primitive .string else parse name

def name : TypeRef → String
  | primitive p => p.name
  | named n => n

end TypeRef

/-- The target of a type rename: the new name, and whether fields become lists of it. -/
structure TypeSpec where
  name : String
  isArray : Bool
deriving Repr, DecidableEq

end ClassInference
