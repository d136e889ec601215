import ClassInference.Field
import ClassInference.OrderedTable

/-!
# Class nodes

An inferred class with its own fields, or a declared enumeration. The base class is held by name:
only the graph knows what it stands for.
-/

namespace ClassInference

structure EnumConstant where
  name : String
  wire : Option String
deriving Repr, DecidableEq

namespace EnumConstant

/-- The literal to state in generated code: the wire text, if it is not the name. -/
def literal (c : EnumConstant) : Option String := c.wire.filter (· != c.name)

/-- Append a constant unless its name is taken. -/
def adjoin (constants : List EnumConstant) (c : EnumConstant) : List EnumConstant :=
  if constants.any (·.name == c.name) then constants else constants ++ [c]

end EnumConstant

/-- What a node holds: fields by wire name, or constants. -/
inductive Content where
  | record (fields : OrderedTable Field)
  | enumeration (constants : List EnumConstant)
deriving Repr, DecidableEq

namespace Content

def emptyLike : Content → Content
  | record _ => record ∅
  | enumeration _ => enumeration []

def fields : Content → OrderedTable Field
  | record fields => fields
  | enumeration _ => ∅

def constants : Content → List EnumConstant
  | record _ => []
  | enumeration constants => constants

def isEnumeration : Content → Bool
  | record _ => false
  | enumeration _ => true

/-- Change the fields of a record; an enumeration stays as it is. -/
def mapFields (f : OrderedTable Field → OrderedTable Field) : Content → Content
  | record fields => record (f fields)
  | enumeration constants => enumeration constants

/-- Take in one field: merged into the field of the same wire name, or appended. -/
def addField (fields : OrderedTable Field) (f : Field) : OrderedTable Field :=
  fields.combine f.wireName (·.merge f) f

/-- The union of two contents of one kind; of different kinds the first stays. -/
def merge : Content → Content → Content
  | record fields, record others => record (others.values.foldl addField fields)
  | enumeration own, enumeration others => enumeration (others.foldl EnumConstant.adjoin own)
  | c, _ => c

end Content

structure ClassNode where
  id : Nat
  package : String
  name : String
  content : Content
  base : Option String
  generate : Bool
deriving Repr, DecidableEq

namespace ClassNode

/-- A class without fields. -/
def new (id : Nat) (package name : String) (generate : Bool) : ClassNode :=
  ⟨id, package, name, .record ∅, none, generate⟩

/-- Own fields in order; an enumeration has none. -/
def fields (c : ClassNode) : List Field := c.content.fields.values

def field? (c : ClassNode) (wireName : String) : Option Field := c.content.fields.get? wireName

def constants (c : ClassNode) : List EnumConstant := c.content.constants

def mapContent (f : Content → Content) (c : ClassNode) : ClassNode :=
  { c with content := f c.content }

/-- Take note of a value under a key, creating its field on first sight. -/
def observe (c : ClassNode) (key : String) (v : Json.Value) (nested : String) : ClassNode :=
  c.mapContent (·.mapFields fun fields =>
    (fields.ensure key (.new key)).modify key (·.observe v nested))

def addField (c : ClassNode) (f : Field) : ClassNode :=
  c.mapContent (·.mapFields fun fields => Content.addField fields f)

def modifyField (c : ClassNode) (wireName : String) (f : Field → Field) : ClassNode :=
  c.mapContent (·.mapFields (·.modify wireName f))

def removeField (c : ClassNode) (wireName : String) : ClassNode :=
  c.mapContent (·.mapFields (·.erase wireName))

/-- Replace the type of every field that has the type `source`. -/
def retype (c : ClassNode) (source target : TypeRef) (asArray : Bool) : ClassNode :=
  c.mapContent (·.mapFields (·.map fun _ f => f.retype source target asArray))

/-- Take in the content of another node. The base is left to the graph. -/
def mergeContent (c other : ClassNode) : ClassNode := c.mapContent (·.merge other.content)

/-- Turn the node into an enumeration with further constants. -/
def declareEnum (c : ClassNode) (constants : List EnumConstant) : ClassNode :=
  { c with content := .enumeration (constants.foldl EnumConstant.adjoin c.constants) }

end ClassNode

end ClassInference
