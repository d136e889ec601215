import ClassInference.ClassGraph.Merge
import ClassInference.RuleSet

/-!
# Applying rules

Subtypes first, then type renames, field renames and field deletions. A rule that names a class or a
field that is not there does nothing.
-/

namespace ClassInference

namespace ClassGraph

/-- Whether a name belongs to a node of a reserved package. -/
def isBuiltin (g : ClassGraph) (name : String) : Bool :=
  match g.find? name with
  | some c => g.isReserved c.package
  | none => false

/-- Move the class `old` to the name `new`: renamed in place, or folded into the class that has the
name. Built-in nodes stay. -/
def moveClass (g : ClassGraph) (old new : String) : ClassGraph :=
  if g.isBuiltin old || old == new then g
  else
    match g.find? old with
    | none => g
    | some origin =>
      if g.contains new then
        ((g.erase old).merge new origin).redirectBases old new
      else (g.rename? old new).getD g

/-- Replace the type `old` by `target` everywhere: the class moves, then each field of the type is
mapped. -/
def renameType (g : ClassGraph) (old : String) (target : TypeSpec) : ClassGraph :=
  let moved := g.moveClass old target.name
  moved.mapNodes
    (·.retype (moved.resolveType old) (moved.resolveType target.name) target.isArray)

/-- Give an own field an explicit name. -/
def renameField? (g : ClassGraph) (rule : FieldRename) : Option ClassGraph :=
  match (g.find? rule.className).bind (·.field? rule.wireName) with
  | some _ =>
    some (g.modify rule.className (·.modifyField rule.wireName (·.setOverride rule.fieldName)))
  | none => none

/-- Remove an own field; inherited fields are not touched. -/
def deleteField? (g : ClassGraph) (rule : FieldDelete) : Option ClassGraph :=
  match (g.find? rule.className).bind (·.field? rule.wireName) with
  | some _ => some (g.modify rule.className (·.removeField rule.wireName))
  | none => none

def applySubtypes (g : ClassGraph) (r : RuleSet) : ClassGraph :=
  r.subtypes.entries.foldl (fun acc e => acc.setBase e.1 e.2) g

def applyTypeRenames (g : ClassGraph) (r : RuleSet) : ClassGraph :=
  r.typeRenames.entries.foldl (fun acc e => acc.renameType e.1 e.2) g

def applyFieldRenames (g : ClassGraph) (r : RuleSet) : ClassGraph :=
  r.fieldRenames.foldl (fun acc rule => (acc.renameField? rule).getD acc) g

def applyFieldDeletes (g : ClassGraph) (r : RuleSet) : ClassGraph :=
  r.fieldDeletes.foldl (fun acc rule => (acc.deleteField? rule).getD acc) g

/-- Apply a rule set, one category after the other. -/
def applyRules (g : ClassGraph) (r : RuleSet) : ClassGraph :=
  (((g.applySubtypes r).applyTypeRenames r).applyFieldRenames r).applyFieldDeletes r

end ClassGraph

end ClassInference
