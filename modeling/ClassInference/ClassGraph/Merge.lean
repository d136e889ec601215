import ClassInference.ClassGraph.Hierarchy

/-!
# Merging

Folding one class into another, and one graph into another. When both classes have a base, the base
of the first takes in the base of the second in turn; no class is folded into twice.
-/

namespace ClassInference

namespace ClassGraph

/-- Fold `other` into the node `target` and go on with their bases, leaving out the targets in
`met`. -/
def mergeFrom (g : ClassGraph) (met : List String) (target : String) (other : ClassNode) :
    ClassGraph :=
  if hm : target ∈ met then g
  else
    match hf : g.find? target with
    | none => g
    | some node =>
      let merged := g.modify target (·.mergeContent other)
      match node.base, other.base with
      | some own, some theirs =>
        if own = theirs then merged
        else
          match merged.find? theirs with
          | none => merged
          | some base =>
            have : merged.unmet (target :: met) < g.unmet met := by
              simpa [unmet, merged] using unmet_cons_lt (mem_names_of_find? hf) hm
            merged.mergeFrom (target :: met) own base
      | none, some theirs => merged.setBase target theirs
      | _, none => merged
termination_by g.unmet met

/-- Fold `other` into the node `target`, which keeps its identity. -/
def merge (g : ClassGraph) (target : String) (other : ClassNode) : ClassGraph :=
  g.mergeFrom [] target other

/-- Create the node for a class of another graph, without content, if it is missing. -/
def adoptEmpty (g : ClassGraph) (c : ClassNode) : ClassGraph :=
  if g.contains c.name then g
  else
    (g.ensure c.package c.name).modify c.name
      ({ · with content := c.content.emptyLike, generate := c.generate })

/-- Fold a whole graph into this one. All nodes are created before any is filled, so that bases
resolve in any order. -/
def absorb (g other : ClassGraph) : ClassGraph :=
  let ready := other.nodes.foldl adoptEmpty g
  other.nodes.foldl (fun acc c => acc.merge c.name c) ready

end ClassGraph

end ClassInference
