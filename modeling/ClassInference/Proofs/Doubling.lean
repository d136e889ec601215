import ClassInference.Proofs.Documents.Absorbed
import ClassInference.Proofs.Documents.Growth
import ClassInference.Proofs.Inheritance.Runs

/-!
# Graphs that absorb themselves

A graph finds nothing new in a copy of itself: no node comes in and no base link, and every field
takes in itself. All that was observed has then been observed twice, which tells no more of a type
than observing it once.
-/

namespace ClassInference

/-! ### Fields -/

/-- What was observed of the field is there twice, and nothing else that shows has changed. -/
structure Field.Doubles (f f' : Field) : Prop where
  wireName : f'.wireName = f.wireName
  name : f'.name = f.name
  isArray : f'.isArray = f.isArray
  mapped : f'.mapped = f.mapped
  typeRef : f'.typeRef = f.typeRef
  observed : f'.observed = f.observed ++ f.observed

theorem Field.doubles_merge_self (f : Field) : f.Doubles (f.merge f) := by
  have hmerge : f.merge f = { f with observed := f.observed ++ f.observed } := by
    simp [merge]
  have hinferred : (f.merge f).inferred = f.inferred := Observation.infer_append_self f.observed
  rw [hmerge] at hinferred ⊢
  constructor
  case typeRef => rw [typeRef, hinferred, typeRef]
  all_goals rfl

/-! ### Contents -/

namespace Content

theorem mergeFields_self {t : OrderedTable Field} (ht : t.Keyed) :
    mergeFields t t = t.map fun _ f => f.merge f := by
  apply OrderedTable.ext_get?
  · have hnone : t.keys.filter (· ∉ t.keys) = [] := by simp
    rw [keys_mergeFields ht, hnone, List.append_nil, OrderedTable.keys_map]
  · intro key
    rw [get?_mergeFields ht, OrderedTable.get?_map]
    cases t.get? key <;> rfl

/-- All the constants are declared already. -/
theorem foldl_adjoin_of_subset {constants more : List EnumConstant} (h : more ⊆ constants) :
    more.foldl EnumConstant.adjoin constants = constants := by
  apply List.foldlRecOn (motive := (· = constants)) more EnumConstant.adjoin rfl
  rintro _ rfl c hc
  exact if_pos (List.any_eq_true.2 ⟨c, h hc, beq_self_eq_true c.name⟩)

theorem merge_self {c : Content} (hc : c.fields.Keyed) :
    c.merge c = c.mapFields (·.map fun _ f => f.merge f) := by
  cases c with
  | record fields => exact congrArg record (mergeFields_self hc)
  | enumeration constants =>
      exact congrArg enumeration (foldl_adjoin_of_subset (List.Subset.refl constants))

end Content

/-! ### Nodes -/

/-- What was observed of the fields of the node is there twice, and nothing else has changed. -/
structure ClassNode.Doubles (c c' : ClassNode) : Prop extends ClassNode.SameButFields c c' where
  keys : c'.content.fields.keys = c.content.fields.keys
  field : ∀ key f, c.content.fields.get? key = some f →
    ∃ f', c'.content.fields.get? key = some f' ∧ f.Doubles f'

theorem ClassNode.doubles_mergeContent_self {c : ClassNode} (hc : c.content.fields.Keyed) :
    c.Doubles (c.mergeContent c) := by
  have hmerge : c.mergeContent c
      = c.mapContent (·.mapFields (·.map fun _ f => f.merge f)) :=
    congrArg ({ c with content := · }) (Content.merge_self hc)
  have hfields : (c.mergeContent c).content.fields
      = c.content.fields.map fun _ f => f.merge f := by
    rw [hmerge, mapContent]
    cases c.content <;> rfl
  constructor
  · rw [hmerge]
    exact c.sameButFields_mapFields _
  · rw [hfields, OrderedTable.keys_map]
  · intro key f hf
    refine ⟨f.merge f, ?_, f.doubles_merge_self⟩
    rw [hfields, OrderedTable.get?_map, hf, Option.map_some]

/-! ### Graphs -/

/-- What was observed of the fields is there twice, and nothing else has changed. -/
structure ClassGraph.Doubles (g k : ClassGraph) : Prop where
  names : k.names = g.names
  node : ∀ n c, g.find? n = some c → ∃ c', k.find? n = some c' ∧ c.Doubles c'
  besideClasses : k = { g with classes := k.classes }

namespace ClassGraph

variable {g : ClassGraph}

theorem mergeNodes_self (g : ClassGraph) :
    g.mergeNodes g = g.mapNodes fun c => c.mergeContent c := by
  refine ext_find? rfl rfl rfl rfl ?_ ?_
  · rw [names_mergeNodes, names_mapNodes]
  · intro n
    rw [find?_mergeNodes, find?_mapNodes]
    cases g.find? n <;> rfl

/-- Every node is merged into itself: none is missing, and each has the base of its own. -/
theorem absorb_self (hg : g.Named) : g.absorb g = g.mapNodes fun c => c.mergeContent c := by
  have hready : g.nodes.foldl adoptEmpty g = g := by
    apply List.foldlRecOn (motive := (· = g)) g.nodes adoptEmpty rfl
    rintro k rfl c hc
    obtain ⟨n, hn⟩ := OrderedTable.mem_values_iff.1 hc
    have hmem : c.name ∈ k.names := hg hn ▸ mem_names_of_find? hn
    exact if_pos (contains_iff.2 hmem)
  have hown : ∀ n c, g.find? n = some c →
      c.name = n ∧ (c.base = none ∨ c.base = g.baseName? n) := by
    intro n c hc
    refine ⟨hg hc, .inr ?_⟩
    rw [baseName?, hc, Option.bind_some]
  calc g.absorb g
      = g.nodes.foldl (fun acc c => acc.merge c.name c) (g.nodes.foldl adoptEmpty g) := rfl
    _ = g.nodes.foldl (fun acc c => acc.merge c.name c) g := by rw [hready]
    _ = g.mergeNodes g := foldl_merge_nodes hown
    _ = g.mapNodes fun c => c.mergeContent c := mergeNodes_self g

/-- A graph that absorbs a copy of itself stays as it is, except that every observation is there
twice. -/
theorem doubles_absorb_self (builtins : Builtins) (calls : List Call) :
    let g := (new builtins).runCalls calls
    g.Doubles (g.absorb g) := by
  intro g
  have hnamed : g.Named := (wellLinked_runCalls builtins calls).named
  have hkeyed : g.FieldsKeyed := fieldsKeyed_runCalls builtins calls
  rw [absorb_self hnamed]
  constructor
  · exact names_mapNodes g _
  · intro n c hc
    refine ⟨c.mergeContent c, ?_, ClassNode.doubles_mergeContent_self (hkeyed hc)⟩
    rw [find?_mapNodes, hc, Option.map_some]
  · rfl

end ClassGraph

end ClassInference
