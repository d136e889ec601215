import ClassInference.Proofs.Fields.Merged

/-!
# Growing graphs

Building from a document writes to any number of nodes, enumerations and nodes that rules have
edited among them. Every write adds: a node comes last in the graph, a field last in its node, an
observation last in its field. So what stood in the graph still stands in its place afterwards.
-/

namespace ClassInference

open Json (Value)

/-! ### Fields -/

/-- More values have been noted in the field, and nothing else has been done to it. -/
structure Field.GrowsTo (f f' : Field) : Prop where
  wireName : f'.wireName = f.wireName
  defaultName : f'.defaultName = f.defaultName
  override : f'.override = f.override
  mapped : f'.mapped = f.mapped
  observed : f.observed <+: f'.observed
  isArray : f.isArray = true → f'.isArray = true
  nested : ∀ n, f.nested = some n → f'.nested = some n

namespace Field

theorem GrowsTo.refl (f : Field) : f.GrowsTo f :=
  ⟨rfl, rfl, rfl, rfl, List.prefix_rfl, id, fun _ => id⟩

theorem GrowsTo.trans {f f' f'' : Field} (h : f.GrowsTo f') (h' : f'.GrowsTo f'') :
    f.GrowsTo f'' where
  wireName := h'.wireName.trans h.wireName
  defaultName := h'.defaultName.trans h.defaultName
  override := h'.override.trans h.override
  mapped := h'.mapped.trans h.mapped
  observed := h.observed.trans h'.observed
  isArray ha := h'.isArray (h.isArray ha)
  nested n hn := h'.nested n (h.nested n hn)

theorem growsTo_observe (f : Field) (v : Value) (nested : String) :
    f.GrowsTo (f.observe v nested) where
  wireName := rfl
  defaultName := rfl
  override := rfl
  mapped := rfl
  observed := List.prefix_append _ _
  isArray ha := by simp [observe, ha]
  nested n hn := by simp [observe, hn]

end Field

/-! ### Tables of fields -/

/-- The fields have grown and more have come after them. -/
structure OrderedTable.GrowsTo (t t' : OrderedTable Field) : Prop where
  keys : t.keys <+: t'.keys
  field : ∀ key f, t.get? key = some f → ∃ f', t'.get? key = some f' ∧ f.GrowsTo f'

namespace OrderedTable

theorem GrowsTo.refl (t : OrderedTable Field) : t.GrowsTo t where
  keys := List.prefix_rfl
  field _ f hf := ⟨f, hf, .refl f⟩

theorem GrowsTo.trans {t t' t'' : OrderedTable Field} (h : t.GrowsTo t') (h' : t'.GrowsTo t'') :
    t.GrowsTo t'' where
  keys := h.keys.trans h'.keys
  field key f hf := by
    obtain ⟨f', hf', hgrown⟩ := h.field key f hf
    obtain ⟨f'', hf'', hgrown'⟩ := h'.field key f' hf'
    exact ⟨f'', hf'', hgrown.trans hgrown'⟩

/-- The field of the key grows, or comes last. -/
theorem growsTo_note (t : OrderedTable Field) (key : String) (v : Value) (nested : String) :
    t.GrowsTo (Content.note t key v nested) where
  keys := by
    rw [Content.keys_note]
    split
    · exact List.prefix_rfl
    · exact List.prefix_append _ _
  field k f hf := by
    rw [Content.get?_note]
    split
    · rename_i hk
      rw [← hk, hf, Option.getD_some]
      exact ⟨_, rfl, f.growsTo_observe v nested⟩
    · exact ⟨f, hf, .refl f⟩

end OrderedTable

/-! ### Nodes -/

/-- The nodes differ in their fields at most. -/
structure ClassNode.SameButFields (c c' : ClassNode) : Prop where
  id : c'.id = c.id
  name : c'.name = c.name
  package : c'.package = c.package
  base : c'.base = c.base
  generate : c'.generate = c.generate
  isEnumeration : c'.content.isEnumeration = c.content.isEnumeration
  constants : c'.constants = c.constants

/-- The fields of the node have grown, and nothing else has changed. -/
structure ClassNode.GrowsTo (c c' : ClassNode) : Prop extends ClassNode.SameButFields c c' where
  fields : c.content.fields.GrowsTo c'.content.fields

namespace ClassNode

theorem SameButFields.refl (c : ClassNode) : c.SameButFields c :=
  ⟨rfl, rfl, rfl, rfl, rfl, rfl, rfl⟩

theorem SameButFields.trans {c c' c'' : ClassNode} (h : c.SameButFields c')
    (h' : c'.SameButFields c'') : c.SameButFields c'' where
  id := h'.id.trans h.id
  name := h'.name.trans h.name
  package := h'.package.trans h.package
  base := h'.base.trans h.base
  generate := h'.generate.trans h.generate
  isEnumeration := h'.isEnumeration.trans h.isEnumeration
  constants := h'.constants.trans h.constants

theorem sameButFields_mapFields (c : ClassNode) (F : OrderedTable Field → OrderedTable Field) :
    c.SameButFields (c.mapContent (·.mapFields F)) where
  id := rfl
  name := rfl
  package := rfl
  base := rfl
  generate := rfl
  isEnumeration := Content.isEnumeration_mapFields F c.content
  constants := Content.constants_mapFields F c.content

theorem GrowsTo.refl (c : ClassNode) : c.GrowsTo c := ⟨.refl c, .refl _⟩

theorem GrowsTo.trans {c c' c'' : ClassNode} (h : c.GrowsTo c') (h' : c'.GrowsTo c'') :
    c.GrowsTo c'' :=
  ⟨h.toSameButFields.trans h'.toSameButFields, h.fields.trans h'.fields⟩

/-- An enumeration stays as it is. -/
theorem growsTo_observe (c : ClassNode) (key : String) (v : Value) (nested : String) :
    c.GrowsTo (c.observe key v nested) := by
  refine ⟨c.sameButFields_mapFields _, ?_⟩
  change c.content.fields.GrowsTo
    (c.content.mapFields fun t => Content.note t key v nested).fields
  cases c.content with
  | record fields => exact fields.growsTo_note key v nested
  | enumeration constants => exact .refl ∅

end ClassNode

/-! ### Graphs -/

/-- The nodes have grown and more have come after them. -/
structure ClassGraph.GrowsTo (g k : ClassGraph) : Prop where
  names : g.names <+: k.names
  node : ∀ n c, g.find? n = some c → ∃ c', k.find? n = some c' ∧ c.GrowsTo c'

namespace ClassGraph

theorem GrowsTo.refl (g : ClassGraph) : g.GrowsTo g where
  names := List.prefix_rfl
  node _ c hc := ⟨c, hc, .refl c⟩

theorem GrowsTo.trans {g h k : ClassGraph} (hgh : g.GrowsTo h) (hhk : h.GrowsTo k) :
    g.GrowsTo k where
  names := hgh.names.trans hhk.names
  node n c hc := by
    obtain ⟨d, hd, hgrown⟩ := hgh.node n c hc
    obtain ⟨e, he, hgrown'⟩ := hhk.node n d hd
    exact ⟨e, he, hgrown.trans hgrown'⟩

theorem growsTo_ensure (g : ClassGraph) (package name : String) :
    g.GrowsTo (g.ensure package name) where
  names := by
    rw [names_ensure]
    split
    · exact List.prefix_rfl
    · exact List.prefix_append _ _
  node n c hc := by
    refine ⟨c, ?_, .refl c⟩
    rw [find?_ensure]
    split
    · rename_i hn
      rw [← hn, hc, Option.getD_some]
    · exact hc

theorem growsTo_modify {f : ClassNode → ClassNode} (hf : ∀ c : ClassNode, c.GrowsTo (f c))
    (g : ClassGraph) (name : String) : g.GrowsTo (g.modify name f) where
  names := by simp
  node n c hc := by
    rw [find?_modify, hc]
    split
    · exact ⟨f c, rfl, hf c⟩
    · exact ⟨c, rfl, .refl c⟩

/-- Building from a document only adds to a graph, whatever has been done to it before. -/
theorem growsTo_build (g : ClassGraph) (document : Value) (package name : String) :
    g.GrowsTo (g.build document package name) := by
  apply buildValue_induction (motive := g.GrowsTo)
  · intro k name hk
    exact hk.trans (k.growsTo_ensure package name)
  · intro k name key v hk
    exact hk.trans (growsTo_modify (·.growsTo_observe key v _) k name)
  · exact .refl g

end ClassGraph

end ClassInference
