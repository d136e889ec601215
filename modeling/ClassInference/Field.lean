import ClassInference.Naming
import ClassInference.Observation
import ClassInference.TypeRef

/-!
# Fields

One member of an inferred class, known by its key in the documents, the wire name. Its type is
worked out from the observations whenever it is asked for, until a rule maps it to a type of its
own.
-/

namespace ClassInference

structure Field where
  wireName : String
  defaultName : String
  override : Option String
  nested : Option String
  mapped : Option TypeRef
  isArray : Bool
  observed : List Observation
deriving Repr, DecidableEq

namespace Field

/-- A field of which nothing has been seen. -/
def new (wireName : String) : Field where
  wireName := wireName
  defaultName := Naming.fieldName wireName
  override := none
  nested := none
  mapped := none
  isArray := false
  observed := []

/-- A field that holds another class. -/
def ofType (wireName typeName : String) (isArray : Bool) : Field :=
  { new wireName with nested := some typeName, isArray := isArray }

/-- Take note of a value under the field's key. The first object seen makes the field refer to
`nested`. -/
def observe (f : Field) (v : Json.Value) (nested : String) : Field :=
  { f with
    observed := f.observed ++ Observation.leaves v
    isArray := f.isArray || Observation.isArray v
    nested := f.nested <|> if Observation.hasObject v then some nested else none }

/-- The name in generated code. -/
def name (f : Field) : String := f.override.getD f.defaultName

def setOverride (f : Field) (name : String) : Field := { f with override := some name }

/-- The common type of everything observed. -/
def inferred (f : Field) : Option Primitive := Observation.infer f.observed none

/-- The element type. A field that was never seen with a usable value is a string. -/
def typeRef (f : Field) : TypeRef :=
  match f.mapped, f.nested with
  | some t, _ => t
  | none, some n => .named n
  | none, none => .primitive (f.inferred.getD .string)

/-- Map the field to the type `target` if its type is `source`. A list stays a list. -/
def retype? (f : Field) (source target : TypeRef) (asArray : Bool) : Option Field :=
  if f.typeRef = source then
    some { f with mapped := some target, isArray := f.isArray || asArray }
  else none

def retype (f : Field) (source target : TypeRef) (asArray : Bool) : Field :=
  (f.retype? source target asArray).getD f

/-- Take in another field of the same key. What is settled here already stays. -/
def merge (f other : Field) : Field :=
  { f with
    observed := f.observed ++ other.observed
    isArray := f.isArray || other.isArray
    nested := f.nested <|> other.nested
    mapped := f.mapped <|> other.mapped
    override := f.override <|> other.override }

def hasCapitalWireName (f : Field) : Bool :=
  match f.wireName.toList with
  | [] => false
  | c :: _ => Text.isCapital c

/-- A rule has given the field another name than its own. -/
def isRenamed (f : Field) : Bool :=
  match f.override with
  | some o => o != f.defaultName
  | none => false

/-- Name and wire name differ, so that generated code has to state the wire name. -/
def needsWireName (f : Field) : Bool := f.name != f.wireName

end Field

end ClassInference
