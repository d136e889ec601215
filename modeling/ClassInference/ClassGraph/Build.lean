import ClassInference.ClassGraph.Basic

/-!
# Building from documents

Recursive descent over a document. Each object fills the class that its key names, so all sightings
of a key come together in one class; arrays are looked through.
-/

namespace ClassInference

namespace ClassGraph

open Json (Value)

mutual

/-- Fill the class `name` from every object in a value. -/
def buildValue (g : ClassGraph) (package name : String) : Value → ClassGraph
  | .object members => buildMembers (g.ensure package name) package name members
  | .array items => buildItems g package name items
  | _ => g

def buildItems (g : ClassGraph) (package name : String) : List Value → ClassGraph
  | [] => g
  | v :: vs => buildItems (buildValue g package name v) package name vs

/-- Note each member in the class `name` and descend into its objects. An enumeration has no fields:
its members are skipped. -/
def buildMembers (g : ClassGraph) (package name : String) : List (String × Value) → ClassGraph
  | [] => g
  | (key, v) :: rest =>
    let nested := Naming.typeName key
    match (g.find? name).map ClassNode.content with
    | some (.record _) =>
      let noted := g.modify name (·.observe key v nested)
      buildMembers (buildValue noted package nested v) package name rest
    | _ => buildMembers g package name rest

end

/-- Model a document under the class `name`. A document without objects leaves the graph as it is.
-/
def build (g : ClassGraph) (document : Value) (package name : String) : ClassGraph :=
  g.buildValue package name document

/-- The identity of the class that a document has filled. -/
def builtId? (g : ClassGraph) (document : Value) (name : String) : Option Nat :=
  if Observation.hasObject document then (g.find? name).map (·.id) else none

end ClassGraph

end ClassInference
