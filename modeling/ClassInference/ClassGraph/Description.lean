import ClassInference.ClassGraph.Hierarchy

/-!
# Describing graphs

The JSON view of a graph: every class in order with what is known of it and of its fields.
-/

namespace ClassInference

open Json (Value)

def Field.describe (f : Field) : List (String × Value) :=
  [("json_name", .string f.wireName),
    ("name", .string f.name),
    ("type", .string f.typeRef.name),
    ("array", .bool f.isArray),
    ("observations", .ofNat f.observed.length),
    ("mapped", .bool f.mapped.isSome),
    ("renamed", .bool f.isRenamed),
    ("upper_case_wire_name", .bool f.hasCapitalWireName),
    ("annotated", .bool f.needsWireName)]

def EnumConstant.describe (c : EnumConstant) : Value :=
  .object (("name", .string c.name) :: (c.wire.map fun w => ("json", .string w)).toList)

namespace ClassGraph

/-- A field of a class; one that an ancestor provides too is marked. -/
def describeField (g : ClassGraph) (c : ClassNode) (f : Field) : Value :=
  .object (f.describe ++
    if g.inherits c.name f.wireName then [("shadows_inherited", .bool true)] else [])

def describeClass (g : ClassGraph) (c : ClassNode) : Value :=
  .object (
    [("name", .string c.name), ("namespace", .string c.package), ("generate", .bool c.generate)]
      ++ (c.base.map fun b => ("base", Value.string b)).toList
      ++ [match c.content with
        | .record fields => ("fields", .array (fields.values.map (g.describeField c)))
        | .enumeration constants => ("enum", .array (constants.map (·.describe)))])

def describe (g : ClassGraph) : Value :=
  .object [("classes", .array (g.nodes.map g.describeClass))]

end ClassGraph

end ClassInference
