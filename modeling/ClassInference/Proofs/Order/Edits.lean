import ClassInference.Proofs.Order.Documents

/-!
# Edits of alike graphs

No edit tells alike graphs apart: what an edit does depends on the names, the links and the types
of the fields, not on any order, and so it leaves alike graphs alike. Where a whole content comes in
from elsewhere, its fields have to stand under their wire names.
-/

namespace ClassInference

namespace ClassGraph

variable {g g' : ClassGraph} {other other' : ClassNode}

/-! ### Links -/

theorem Alike.rekey (h : g.Alike g') (old new : String) :
    (g.rekey old new).Alike (g'.rekey old new) := by
  by_cases hn : new ∈ g.names
  · rw [rekey_of_mem_names hn, rekey_of_mem_names (h.mem_names_iff.1 hn)]
    exact h
  · apply alike_of_find?
    · exact h.builtins
    · intro n
      rw [find?_rekey hn, find?_rekey (mt h.mem_names_iff.2 hn)]
      split
      · exact (h.find? old).map fun _ _ hc => hc.withName new
      · split
        · exact .none
        · exact h.find? n

theorem Alike.redirectBases (h : g.Alike g') (old new : String) :
    (g.redirectBases old new).Alike (g'.redirectBases old new) := by
  apply h.mapNodes
  intro c c' hc
  have hbase : (if c'.name = new then none else some new)
      = if c.name = new then none else some new := by rw [hc.name]
  rw [hc.base, hbase]
  split
  · exact hc.withBase _
  · exact hc

theorem Alike.ancestors (h : g.Alike g') (name : String) :
    g'.ancestors name = g.ancestors name := by
  rw [ClassGraph.ancestors, h.baseName?, chain_eq_of_baseName? h.baseName?, ClassGraph.ancestors]

theorem Alike.setBase (h : g.Alike g') (sub base : String) :
    (g.setBase sub base).Alike (g'.setBase sub base) := by
  unfold ClassGraph.setBase setBase?
  rw [h.contains, h.contains, h.ancestors]
  split
  · exact h.modify (fun _ _ hc => hc.withBase _) sub
  · exact h

theorem Alike.rename? (h : g.Alike g') (old new : String) :
    Option.Rel ClassGraph.Alike (g.rename? old new) (g'.rename? old new) := by
  unfold ClassGraph.rename?
  rw [h.contains, h.contains]
  split
  · exact .some ((h.rekey old new).redirectBases old new)
  · exact .none

theorem Alike.remove? (h : g.Alike g') (name : String) :
    Option.Rel ClassGraph.Alike ((g.remove? name).map Prod.snd)
      ((g'.remove? name).map Prod.snd) := by
  unfold ClassGraph.remove?
  rw [Option.map_map, Option.map_map]
  apply (h.find? name).map
  intro _ _ _
  apply (h.erase name).mapNodes
  intro c c' hc
  rw [hc.base]
  split
  · exact hc.withBase none
  · exact hc

/-! ### Merging -/

theorem Alike.mergeContent (h : g.Alike g') (hkeyed : other.content.fields.Keyed)
    (ho : other.Alike other') (target : String) :
    (g.modify target (·.mergeContent other)).Alike (g'.modify target (·.mergeContent other')) :=
  h.modify (fun _ _ hc => hc.mergeContent hkeyed ho) target

theorem FieldsKeyed.mergeContent (hg : g.FieldsKeyed) (other : ClassNode) (target : String) :
    (g.modify target (·.mergeContent other)).FieldsKeyed :=
  Every.modify hg (fun _ c hc => contentInvariant_keyed.merge c.content other.content hc) target

theorem Alike.mergeFrom (h : g.Alike g') (hg : g.FieldsKeyed) (hkeyed : other.content.fields.Keyed)
    (ho : other.Alike other') (met : List String) (target : String) :
    (g.mergeFrom met target other).Alike (g'.mergeFrom met target other') := by
  fun_induction ClassGraph.mergeFrom g met target other generalizing g' other' with
  | case1 g met target other hm =>
      rw [mergeFrom_of_mem hm]
      exact h
  | case2 g met target other hm hf =>
      rw [mergeFrom_of_find?_none hm (h.find?_eq_none hf)]
      exact h
  | case3 g met target other hm node hf merged theirs ht =>
      rename_i hnode
      obtain ⟨node', hf', hnn⟩ := h.exists_find? hf
      rw [mergeFrom_of_find? hm hf', hnn.base, ho.base, ht, hnode]
      simp only [if_true]
      exact h.mergeContent hkeyed ho target
  | case4 g met target other hm node hf merged own theirs ht hnode hne =>
      rename_i hnone
      have hmerged := h.mergeContent hkeyed ho target
      obtain ⟨node', hf', hnn⟩ := h.exists_find? hf
      rw [mergeFrom_of_find? hm hf', hnn.base, ho.base, ht, hnode]
      simp only [if_neg hne, hmerged.find?_eq_none hnone, Option.elim_none]
      exact hmerged
  | case5 g met target other hm node hf merged own theirs ht hnode hne base hbase _ =>
      rename_i ih
      -- the next class is looked up in the merged graphs, which are alike again
      have hmerged := h.mergeContent hkeyed ho target
      have hfields := hg.mergeContent other target
      obtain ⟨node', hf', hnn⟩ := h.exists_find? hf
      obtain ⟨base', hbase', hbb⟩ := hmerged.exists_find? hbase
      rw [mergeFrom_of_find? hm hf', hnn.base, ho.base, ht, hnode]
      simp only [if_neg hne, hbase', Option.elim_some]
      exact ih hmerged hfields (hfields hbase) hbb
  | case6 g met target other hm node hf merged theirs ht =>
      rename_i hnode
      obtain ⟨node', hf', hnn⟩ := h.exists_find? hf
      rw [mergeFrom_of_find? hm hf', hnn.base, ho.base, ht, hnode]
      exact (h.mergeContent hkeyed ho target).setBase target theirs
  | case7 g met target other hm node hf merged =>
      rename_i ht
      obtain ⟨node', hf', hnn⟩ := h.exists_find? hf
      rw [mergeFrom_of_find? hm hf', hnn.base, ho.base, ht]
      cases node.base <;> exact h.mergeContent hkeyed ho target

theorem Alike.merge (h : g.Alike g') (hg : g.FieldsKeyed) (hkeyed : other.content.fields.Keyed)
    (ho : other.Alike other') (target : String) :
    (g.merge target other).Alike (g'.merge target other') :=
  h.mergeFrom hg hkeyed ho [] target

theorem Alike.adoptEmpty (h : g.Alike g') (c : ClassNode) :
    (g.adoptEmpty c).Alike (g'.adoptEmpty c) := by
  unfold ClassGraph.adoptEmpty
  rw [h.contains]
  split
  · exact h
  · apply (h.ensure c.package c.name).modify
    intro d d' hd
    cases hd with
    | renumber id hcontent => exact .renumber id (.refl _)

/-- Steps that leave alike graphs alike and their fields keyed, one after the other. -/
theorem Alike.foldl {α : Type*} {f : ClassGraph → α → ClassGraph} {xs : List α}
    (hf : ∀ g g' x, x ∈ xs → g.Alike g' → g.FieldsKeyed →
      (f g x).Alike (f g' x) ∧ (f g x).FieldsKeyed)
    (h : g.Alike g') (hg : g.FieldsKeyed) :
    (xs.foldl f g).Alike (xs.foldl f g') ∧ (xs.foldl f g).FieldsKeyed := by
  induction xs generalizing g g' with
  | nil => exact ⟨h, hg⟩
  | cons x xs ih =>
      obtain ⟨hstep, hkeyed⟩ := hf g g' x List.mem_cons_self h hg
      exact ih (fun g g' y hy => hf g g' y (List.mem_cons_of_mem x hy)) hstep hkeyed

theorem Alike.absorb {k : ClassGraph} (h : g.Alike g') (hg : g.FieldsKeyed)
    (hk : ∀ c ∈ k.nodes, c.content.fields.Keyed) : (g.absorb k).Alike (g'.absorb k) := by
  have hkeyed := contentInvariant_keyed.over
  obtain ⟨hready, hfields⟩ : (k.nodes.foldl ClassGraph.adoptEmpty g).Alike
      (k.nodes.foldl ClassGraph.adoptEmpty g')
        ∧ (k.nodes.foldl ClassGraph.adoptEmpty g).FieldsKeyed := by
    apply Alike.foldl _ h hg
    intro g g' c _ h hg
    exact ⟨h.adoptEmpty c, EveryContent.adoptEmpty hkeyed hg c⟩
  refine (Alike.foldl ?_ hready hfields).1
  intro g g' c hc h hg
  exact ⟨h.merge hg (hk c hc) (.refl c) c.name, EveryContent.merge hkeyed.merges hg trivial c.name⟩

/-! ### Rules -/

theorem Alike.isBuiltin (h : g.Alike g') (name : String) :
    g'.isBuiltin name = g.isBuiltin name := by
  unfold ClassGraph.isBuiltin
  rcases (h.find? name).eq_or_exists with ⟨hc, hc'⟩ | ⟨c, c', hc, hc', hcc⟩
  · rw [hc, hc']
  · rw [hc, hc']
    dsimp only
    rw [hcc.package, h.isReserved]

theorem Alike.moveClass (h : g.Alike g') (hg : g.FieldsKeyed) (old new : String) :
    (g.moveClass old new).Alike (g'.moveClass old new) := by
  unfold ClassGraph.moveClass
  rw [h.isBuiltin, h.contains]
  split
  · exact h
  · rcases (h.find? old).eq_or_exists with ⟨hc, hc'⟩ | ⟨c, c', hc, hc', hcc⟩
    · rw [hc, hc']
      exact h
    · rw [hc, hc']
      dsimp only
      split
      · have herased : (g.erase old).FieldsKeyed := Every.erase hg old
        exact ((h.erase old).merge herased (hg hc) hcc new).redirectBases old new
      · exact (h.rename? old new).getD h

theorem Alike.renameType (h : g.Alike g') (hg : g.FieldsKeyed) (old : String) (target : TypeSpec) :
    (g.renameType old target).Alike (g'.renameType old target) := by
  have hmoved := h.moveClass hg old target.name
  have hresolve : ∀ name, (g'.moveClass old target.name).resolveType name
      = (g.moveClass old target.name).resolveType name := by
    intro name
    rw [resolveType, hmoved.builtins, resolveType]
  unfold ClassGraph.renameType
  dsimp only
  rw [hresolve, hresolve]
  exact hmoved.mapNodes fun _ _ hc => hc.retype _ _ _

/-- Both graphs have a field under the key of a class, or none of them has. -/
theorem Alike.field? (h : g.Alike g') (className wireName : String) :
    Option.Rel Field.Alike ((g.find? className).bind (·.field? wireName))
      ((g'.find? className).bind (·.field? wireName)) := by
  rcases (h.find? className).eq_or_exists with ⟨hc, hc'⟩ | ⟨c, c', hc, hc', hcc⟩
  · rw [hc, hc']
    exact .none
  · rw [hc, hc']
    exact hcc.content.fields wireName

theorem Alike.renameField? (h : g.Alike g') (rule : FieldRename) :
    Option.Rel ClassGraph.Alike (g.renameField? rule) (g'.renameField? rule) := by
  unfold ClassGraph.renameField?
  rcases (h.field? rule.className rule.wireName).eq_or_exists with
    ⟨hf, hf'⟩ | ⟨f, f', hf, hf', -⟩
  · rw [hf, hf']
    exact .none
  · rw [hf, hf']
    apply Option.Rel.some
    apply h.modify
    intro c c' hc
    exact hc.modifyField _ fun _ _ hff => hff.setOverride _

theorem Alike.deleteField? (h : g.Alike g') (rule : FieldDelete) :
    Option.Rel ClassGraph.Alike (g.deleteField? rule) (g'.deleteField? rule) := by
  unfold ClassGraph.deleteField?
  rcases (h.field? rule.className rule.wireName).eq_or_exists with
    ⟨hf, hf'⟩ | ⟨f, f', hf, hf', -⟩
  · rw [hf, hf']
    exact .none
  · rw [hf, hf']
    apply Option.Rel.some
    apply h.modify
    intro c c' hc
    exact hc.removeField _

/-! ### Runs -/

theorem Alike.declareEnum (h : g.Alike g') (package name : String)
    (constants : List EnumConstant) :
    (g.declareEnum package name constants).Alike (g'.declareEnum package name constants) :=
  (h.ensure package name).modify (fun _ _ hc => hc.declareEnum constants) name

/-- No edit tells alike graphs apart. -/
theorem Alike.edit (h : g.Alike g') (hg : g.FieldsKeyed) {e : Edit}
    (he : e.Admits (·.fields.Keyed)) : (g.edit e).Alike (g'.edit e) := by
  cases e with
  | ensure package name => exact h.ensure package name
  | declareEnum package name constants => exact h.declareEnum package name constants
  | build document package name => exact h.build document package name
  | merge target other => exact h.merge hg he (.refl other) target
  | absorb other => exact h.absorb hg he
  | rename old new => exact (h.rename? old new).getD h
  | remove name => exact (h.remove? name).getD h
  | setBase sub base => exact h.setBase sub base
  | renameType old target => exact h.renameType hg old target
  | renameField rule => exact (h.renameField? rule).getD h
  | deleteField rule => exact (h.deleteField? rule).getD h

theorem Alike.run (h : g.Alike g') (hg : g.FieldsKeyed) {edits : List Edit}
    (he : ∀ e ∈ edits, e.Admits (·.fields.Keyed)) : (g.run edits).Alike (g'.run edits) := by
  refine (Alike.foldl ?_ h hg).1
  intro g g' e hmem h hg
  exact ⟨h.edit hg (he e hmem), hg.edit e⟩

theorem FieldsKeyed.applyRules (hg : g.FieldsKeyed) (rules : RuleSet) :
    (g.applyRules rules).FieldsKeyed := by
  rw [applyRules_eq_run]
  exact List.foldlRecOn (motive := FieldsKeyed) _ _ hg fun _ hk e _ => hk.edit e

/-- Rules make alike graphs of alike graphs. -/
theorem Alike.applyRules (h : g.Alike g') (hg : g.FieldsKeyed) (rules : RuleSet) :
    (g.applyRules rules).Alike (g'.applyRules rules) := by
  rw [applyRules_eq_run, applyRules_eq_run]
  have hadmits : (Call.applyRules rules).Admits (·.fields.Keyed) := trivial
  exact h.run hg hadmits.edits

end ClassGraph

end ClassInference
