import ClassInference.OrderedTable
import ClassInference.TypeRef

/-!
# Rule sets

Declarative edits of an inferred graph in four categories. Type renames and subtypes are keyed by
the type they speak of, so a second rule for a key replaces the first in its place; field rules
pile up.
-/

namespace ClassInference

structure FieldRename where
  className : String
  wireName : String
  fieldName : String
deriving Repr, DecidableEq

structure FieldDelete where
  className : String
  wireName : String
deriving Repr, DecidableEq

structure RuleSet where
  typeRenames : OrderedTable TypeSpec
  subtypes : OrderedTable String
  fieldRenames : List FieldRename
  fieldDeletes : List FieldDelete
deriving Repr, DecidableEq

namespace RuleSet

def empty : RuleSet := ⟨∅, ∅, [], []⟩

instance : EmptyCollection RuleSet := ⟨empty⟩

def mapType (r : RuleSet) (source : String) (target : TypeSpec) : RuleSet :=
  { r with typeRenames := r.typeRenames.insert source target }

def assignSubtype (r : RuleSet) (sub base : String) : RuleSet :=
  { r with subtypes := r.subtypes.insert sub base }

def renameField (r : RuleSet) (rule : FieldRename) : RuleSet :=
  { r with fieldRenames := r.fieldRenames ++ [rule] }

def deleteField (r : RuleSet) (rule : FieldDelete) : RuleSet :=
  { r with fieldDeletes := r.fieldDeletes ++ [rule] }

/-- Append the rules of `other`, which wins where keys agree. -/
def extend (r other : RuleSet) : RuleSet where
  typeRenames := r.typeRenames.insertAll other.typeRenames.entries
  subtypes := r.subtypes.insertAll other.subtypes.entries
  fieldRenames := r.fieldRenames ++ other.fieldRenames
  fieldDeletes := r.fieldDeletes ++ other.fieldDeletes

def isEmpty (r : RuleSet) : Bool :=
  r.typeRenames.isEmpty && r.subtypes.isEmpty && r.fieldRenames.isEmpty && r.fieldDeletes.isEmpty

end RuleSet

end ClassInference
