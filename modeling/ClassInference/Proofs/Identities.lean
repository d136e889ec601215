import ClassInference.Proofs.Edits
import ClassInference.Proofs.Inheritance.Merging
import Mathlib.Data.List.Nodup

/-!
# Identities

Every edit is made of five operations on nodes: a node is created, changed, dropped or moved to
another name, or all nodes are changed. Only the first gives out an identity, the next one, and none
changes the identity of a node, so that the identities stand in the order in which they were given
out.
-/

namespace ClassInference

namespace ClassGraph

/-- The operations on nodes keep the property, as long as a changed node keeps its identity. -/
structure NodeInvariant (P : ClassGraph → Prop) : Prop where
  ensure : ∀ g package name, P g → P (g.ensure package name)
  modify : ∀ (g : ClassGraph) (f : ClassNode → ClassNode), (∀ c, (f c).id = c.id) →
    ∀ name, P g → P (g.modify name f)
  mapNodes : ∀ (g : ClassGraph) (f : ClassNode → ClassNode), (∀ c, (f c).id = c.id) →
    P g → P (g.mapNodes f)
  erase : ∀ g name, P g → P (g.erase name)
  rekey : ∀ g old new, P g → P (g.rekey old new)

namespace NodeInvariant

variable {P : ClassGraph → Prop} {g : ClassGraph}

theorem build (hP : NodeInvariant P) (hg : P g) (document : Json.Value) (package name : String) :
    P (g.build document package name) := by
  apply buildValue_induction _ _ hg
  · intro k name hk
    exact hP.ensure k package name hk
  · intro k name key v hk
    exact hP.modify k _ (fun _ => by rfl) name hk

theorem setBase (hP : NodeInvariant P) (hg : P g) (sub base : String) : P (g.setBase sub base) := by
  unfold ClassGraph.setBase setBase?
  split
  · exact hP.modify g _ (fun _ => by rfl) sub hg
  · exact hg

theorem merge (hP : NodeInvariant P) (hg : P g) (target : String) (other : ClassNode) :
    P (g.merge target other) := by
  apply mergeFrom_induction _ _ g [] target other hg
  · intro k target other hk
    exact hP.modify k _ (fun _ => by rfl) target hk
  · intro k sub base hk
    exact hP.setBase hk sub base

theorem adoptEmpty (hP : NodeInvariant P) (hg : P g) (c : ClassNode) : P (g.adoptEmpty c) := by
  unfold ClassGraph.adoptEmpty
  split
  · exact hg
  · exact hP.modify _ _ (fun _ => by rfl) _ (hP.ensure g _ _ hg)

theorem absorb (hP : NodeInvariant P) (hg : P g) (other : ClassGraph) : P (g.absorb other) := by
  have hready : P (other.nodes.foldl ClassGraph.adoptEmpty g) :=
    List.foldlRecOn _ _ hg fun k hk c _ => hP.adoptEmpty hk c
  exact List.foldlRecOn _ _ hready fun k hk c _ => hP.merge hk c.name c

theorem redirectBases (hP : NodeInvariant P) (hg : P g) (old new : String) :
    P (g.redirectBases old new) := by
  apply hP.mapNodes g _ _ hg
  intro c
  split <;> rfl

theorem rename? (hP : NodeInvariant P) (hg : P g) (old new : String) :
    P ((g.rename? old new).getD g) := by
  unfold ClassGraph.rename?
  split
  · exact hP.redirectBases (hP.rekey g old new hg) old new
  · exact hg

theorem remove? (hP : NodeInvariant P) (hg : P g) (name : String) :
    P (((g.remove? name).map Prod.snd).getD g) := by
  unfold ClassGraph.remove?
  cases g.find? name with
  | none => exact hg
  | some c =>
      apply hP.mapNodes _ _ _ (hP.erase g name hg)
      intro c
      split <;> rfl

theorem renameType (hP : NodeInvariant P) (hg : P g) (old : String) (target : TypeSpec) :
    P (g.renameType old target) := by
  have hmoved : P (g.moveClass old target.name) := by
    unfold moveClass
    split
    · exact hg
    · split
      · exact hg
      · split
        · exact hP.redirectBases (hP.merge (hP.erase g old hg) _ _) _ _
        · exact hP.rename? hg old target.name
  exact hP.mapNodes _ _ (fun _ => by rfl) hmoved

/-- What the operations on nodes keep, every edit keeps. -/
theorem edit (hP : NodeInvariant P) (hg : P g) (e : Edit) : P (g.edit e) := by
  cases e with
  | ensure package name => exact hP.ensure g package name hg
  | declareEnum package name constants =>
      exact hP.modify _ _ (fun _ => by rfl) _ (hP.ensure g package name hg)
  | build document package name => exact hP.build hg document package name
  | merge target other => exact hP.merge hg target other
  | absorb other => exact hP.absorb hg other
  | rename old new => exact hP.rename? hg old new
  | remove name => exact hP.remove? hg name
  | setBase sub base => exact hP.setBase hg sub base
  | renameType old target => exact hP.renameType hg old target
  | renameField rule =>
      rw [ClassGraph.edit, renameField?]
      split
      · exact hP.modify g _ (fun _ => by rfl) _ hg
      · exact hg
  | deleteField rule =>
      rw [ClassGraph.edit, deleteField?]
      split
      · exact hP.modify g _ (fun _ => by rfl) _ hg
      · exact hg

theorem run (hP : NodeInvariant P) (hg : P g) (edits : List Edit) : P (g.run edits) :=
  run_induction (motive := P) (fun _ e hk => hP.edit hk e) hg edits

end NodeInvariant

/-! ### Identities in order -/

/-- The identities of the nodes, in their order. -/
def ids (g : ClassGraph) : List Nat := g.nodes.map (·.id)

/-- The nodes have identities that were given out, in the order of their giving out. -/
def Numbered (g : ClassGraph) : Prop := g.ids.Sublist (List.range g.nextId)

variable {g : ClassGraph}

theorem ids_map {F : String → ClassNode → ClassNode} (hF : ∀ name c, (F name c).id = c.id)
    (g : ClassGraph) : ids { g with classes := g.classes.map F } = g.ids := by
  simp only [ids, nodes, OrderedTable.values, OrderedTable.map, List.map_map]
  exact List.map_congr_left fun e _ => hF e.1 e.2

theorem ids_modify {f : ClassNode → ClassNode} (hf : ∀ c, (f c).id = c.id) (g : ClassGraph)
    (name : String) : (g.modify name f).ids = g.ids := by
  apply ids_map
  intro n c
  split
  · exact hf c
  · rfl

theorem ids_ensure (g : ClassGraph) (package name : String) :
    (g.ensure package name).ids = if name ∈ g.names then g.ids else g.ids ++ [g.nextId] := by
  unfold ensure
  by_cases hn : name ∈ g.names
  · rw [if_pos (contains_iff.2 hn), if_pos hn]
  · have hentries := OrderedTable.entries_insert_of_not_mem
      (ClassNode.new g.nextId package name (!g.isReserved package)) hn
    rw [if_neg (mt contains_iff.1 hn), if_neg hn, ids, nodes, OrderedTable.values]
    dsimp only
    rw [hentries, List.map_append, List.map_append]
    rfl

theorem ids_rekey (g : ClassGraph) (old new : String) : (g.rekey old new).ids = g.ids := by
  simp only [ids, nodes, OrderedTable.values, rekey, OrderedTable.rekey]
  split
  · rfl
  · simp only [List.map_map]
    apply List.map_congr_left
    intro e _
    by_cases he : e.1 = old <;> simp [he]

theorem ids_erase_sublist (g : ClassGraph) (name : String) :
    (g.erase name).ids.Sublist g.ids :=
  (List.filter_sublist.map _).map _

theorem nodeInvariant_numbered : NodeInvariant Numbered where
  ensure g package name hg := by
    rw [Numbered, ids_ensure, nextId_ensure]
    by_cases hn : name ∈ g.names
    · rwa [if_pos hn, if_pos hn]
    · rw [if_neg hn, if_neg hn, List.range_succ]
      exact hg.append_right [g.nextId]
  modify g f hf name hg := by
    rw [Numbered, ids_modify hf]
    exact hg
  mapNodes g f hf hg := by
    rw [Numbered, mapNodes, ids_map fun _ c => hf c]
    exact hg
  erase g name hg := (ids_erase_sublist g name).trans hg
  rekey g old new hg := by
    rw [Numbered, ids_rekey]
    exact hg

theorem numbered_run (builtins : Builtins) (edits : List Edit) :
    ((new builtins).run edits).Numbered := by
  have hempty : Numbered ⟨∅, builtins, 0, none, none⟩ := List.nil_sublist _
  exact nodeInvariant_numbered.run (nodeInvariant_numbered.ensure _ _ _ hempty) edits

theorem Numbered.nodup_ids (hg : g.Numbered) : g.ids.Nodup := hg.nodup List.nodup_range

/-- An identity is that of one name. -/
theorem Numbered.name_eq (hg : g.Numbered) {a b : String} {c d : ClassNode}
    (hc : g.find? a = some c) (hd : g.find? b = some d) (hid : c.id = d.id) : a = b := by
  have hnodup : (g.classes.entries.map fun e => e.2.id).Nodup := by
    have hids := hg.nodup_ids
    rwa [ids, nodes, OrderedTable.values, List.map_map] at hids
  have he := List.inj_on_of_nodup_map hnodup (OrderedTable.get?_eq_some_iff.1 hc)
    (OrderedTable.get?_eq_some_iff.1 hd) hid
  exact congrArg Prod.fst he

theorem Numbered.id_lt (hg : g.Numbered) {c : ClassNode} (hc : c ∈ g.nodes) : c.id < g.nextId :=
  List.mem_range.1 (hg.subset (List.mem_map_of_mem hc))

end ClassGraph

end ClassInference
