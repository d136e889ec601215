import ClassInference.ClassGraph.Build
import ClassInference.ClassGraph.Hierarchy
import ClassInference.Proofs.Tables

/-!
# Operations node by node

What holds of every node and the name it stands under, and what the operations on nodes keep of it.
Building changes a graph by two of these operations, however deep it descends.
-/

namespace ClassInference

namespace ClassGraph

open Json (Value)

/-- The property holds of every node and the name it stands under. -/
def Every (g : ClassGraph) (P : String → ClassNode → Prop) : Prop :=
  ∀ ⦃name c⦄, g.find? name = some c → P name c

variable {g h k : ClassGraph} {P : String → ClassNode → Prop} {old new : String}

/-! ### Views -/

/-- Graphs that differ in nothing that can be asked of them are equal. -/
theorem ext_find? (hbuiltins : g.builtins = h.builtins) (hid : g.nextId = h.nextId)
    (hheader : g.fileHeader = h.fileHeader) (hcomment : g.classComment = h.classComment)
    (hnames : g.names = h.names) (hfind : ∀ n, g.find? n = h.find? n) : g = h := by
  have hclasses : g.classes = h.classes := OrderedTable.ext_get? hnames hfind
  cases g
  cases h
  simp_all

theorem names_ensure (g : ClassGraph) (package name : String) :
    (g.ensure package name).names = if name ∈ g.names then g.names else g.names ++ [name] := by
  unfold ensure
  by_cases hn : name ∈ g.names
  · rw [if_pos (contains_iff.2 hn), if_pos hn]
  · rw [if_neg (mt contains_iff.1 hn), if_neg hn]
    exact (OrderedTable.keys_insert _ _ _).trans (if_neg hn)

theorem nextId_ensure (g : ClassGraph) (package name : String) :
    (g.ensure package name).nextId = if name ∈ g.names then g.nextId else g.nextId + 1 := by
  unfold ensure
  by_cases hn : name ∈ g.names
  · rw [if_pos (contains_iff.2 hn), if_pos hn]
  · rw [if_neg (mt contains_iff.1 hn), if_neg hn]

theorem builtins_ensure (g : ClassGraph) (package name : String) :
    (g.ensure package name).builtins = g.builtins := by
  unfold ensure
  split <;> rfl

theorem fileHeader_ensure (g : ClassGraph) (package name : String) :
    (g.ensure package name).fileHeader = g.fileHeader := by
  unfold ensure
  split <;> rfl

theorem classComment_ensure (g : ClassGraph) (package name : String) :
    (g.ensure package name).classComment = g.classComment := by
  unfold ensure
  split <;> rfl

theorem modify_eq_self {name : String} {f : ClassNode → ClassNode}
    (hself : ∀ c, g.find? name = some c → f c = c) :
    g.modify name f = g := by
  refine ext_find? rfl rfl rfl rfl (names_modify g name f) fun n => ?_
  rw [find?_modify]
  split
  · rename_i hn
    subst hn
    cases hc : g.find? n with
    | none => rfl
    | some c => rw [Option.map_some, hself c hc]
  · rfl

theorem rekey_of_mem_names (hn : new ∈ g.names) : g.rekey old new = g := by
  have hkeep : g.classes.rekey old new ({ · with name := new }) = g.classes := dif_pos hn
  rw [rekey, hkeep]

/-! ### What the operations keep -/

theorem Every.modify {f : ClassNode → ClassNode} (hg : g.Every P)
    (hf : ∀ name c, P name c → P name (f c)) (name : String) : (g.modify name f).Every P := by
  intro n c hc
  rw [find?_modify] at hc
  split at hc
  · obtain ⟨d, hd, rfl⟩ := Option.map_eq_some_iff.1 hc
    exact hf n d (hg hd)
  · exact hg hc

theorem Every.mapNodes {f : ClassNode → ClassNode} (hg : g.Every P)
    (hf : ∀ name c, P name c → P name (f c)) : (g.mapNodes f).Every P := by
  intro n c hc
  rw [find?_mapNodes] at hc
  obtain ⟨d, hd, rfl⟩ := Option.map_eq_some_iff.1 hc
  exact hf n d (hg hd)

theorem Every.ensure {package name : String} (hg : g.Every P)
    (hnew : P name (.new g.nextId package name (!g.isReserved package))) :
    (g.ensure package name).Every P := by
  intro n c hc
  rw [find?_ensure] at hc
  split at hc
  · rename_i hn
    rw [hn]
    cases hf : g.find? name with
    | none =>
        rw [hf, Option.getD_none, Option.some.injEq] at hc
        rwa [← hc]
    | some d =>
        rw [hf, Option.getD_some, Option.some.injEq] at hc
        rw [← hc]
        exact hg hf
  · exact hg hc

theorem Every.erase (hg : g.Every P) (name : String) : (g.erase name).Every P := by
  intro n c hc
  rw [find?_erase] at hc
  split at hc
  · simp at hc
  · exact hg hc

theorem Every.rekey (hg : g.Every P) (hnew : new ∉ g.names)
    (hmoved : ∀ c, P old c → P new { c with name := new }) :
    (g.rekey old new).Every P := by
  intro n c hc
  rw [find?_rekey hnew] at hc
  split at hc
  · rename_i hn
    rw [hn]
    obtain ⟨d, hd, rfl⟩ := Option.map_eq_some_iff.1 hc
    exact hmoved d (hg hd)
  · split at hc
    · simp at hc
    · exact hg hc

theorem Every.redirectBases (hg : g.Every P)
    (hbase : ∀ name c base, P name c → P name { c with base := base }) (old new : String) :
    (g.redirectBases old new).Every P := by
  apply hg.mapNodes
  intro n c hc
  split
  · exact hbase n c _ hc
  · exact hc

theorem Every.setBase (hg : g.Every P)
    (hbase : ∀ name c base, P name c → P name { c with base := base }) (sub base : String) :
    (g.setBase sub base).Every P := by
  unfold ClassGraph.setBase setBase?
  split
  · exact hg.modify (fun n c hc => hbase n c _ hc) sub
  · exact hg

theorem Every.remove? {name : String} {c : ClassNode} (hg : g.Every P)
    (hbase : ∀ name c base, P name c → P name { c with base := base })
    (h : g.remove? name = some (c, k)) : k.Every P := by
  obtain ⟨d, -, he⟩ := Option.map_eq_some_iff.1 h
  obtain ⟨-, rfl⟩ := Prod.mk.inj he
  apply (hg.erase name).mapNodes
  intro n c hc
  split
  · exact hbase n c none hc
  · exact hc

theorem rename?_eq_some_iff :
    g.rename? old new = some k ↔
      (old ≠ new ∧ new ∉ g.names ∧ old ∈ g.names) ∧
        (g.rekey old new).redirectBases old new = k := by
  have hc : g.contains new = false ↔ new ∉ g.names := by
    rw [← contains_iff, Bool.not_eq_true]
  simp [rename?, contains_iff, hc, and_assoc]

theorem Every.rename? (hg : g.Every P)
    (hbase : ∀ name c base, P name c → P name { c with base := base })
    (hmoved : ∀ c, P old c → P new { c with name := new })
    (h : g.rename? old new = some k) : k.Every P := by
  obtain ⟨⟨-, hnew, -⟩, rfl⟩ := rename?_eq_some_iff.1 h
  exact (hg.rekey hnew hmoved).redirectBases hbase old new

mutual

/-- Building is made of new nodes and of observations in nodes. -/
theorem buildValue_induction {motive : ClassGraph → Prop} {package : String}
    (ensure : ∀ g name, motive g → motive (g.ensure package name))
    (observe : ∀ g name key v, motive g →
      motive (g.modify name (·.observe key v (Naming.typeName key))))
    {g : ClassGraph} (hg : motive g) (name : String) :
    ∀ v : Value, motive (g.buildValue package name v)
  | .object members => by
      rw [buildValue]
      exact buildMembers_induction ensure observe (ensure g name hg) name members
  | .array items => by
      rw [buildValue]
      exact buildItems_induction ensure observe hg name items
  | .null | .bool _ | .number _ | .string _ => by
      rw [buildValue]
      · exact hg
      all_goals simp

theorem buildItems_induction {motive : ClassGraph → Prop} {package : String}
    (ensure : ∀ g name, motive g → motive (g.ensure package name))
    (observe : ∀ g name key v, motive g →
      motive (g.modify name (·.observe key v (Naming.typeName key))))
    {g : ClassGraph} (hg : motive g) (name : String) :
    ∀ items : List Value, motive (g.buildItems package name items)
  | [] => by
      rw [buildItems]
      exact hg
  | v :: vs => by
      rw [buildItems]
      have hv := buildValue_induction ensure observe hg name v
      exact buildItems_induction ensure observe hv name vs

theorem buildMembers_induction {motive : ClassGraph → Prop} {package : String}
    (ensure : ∀ g name, motive g → motive (g.ensure package name))
    (observe : ∀ g name key v, motive g →
      motive (g.modify name (·.observe key v (Naming.typeName key))))
    {g : ClassGraph} (hg : motive g) (name : String) :
    ∀ members : List (String × Value), motive (g.buildMembers package name members)
  | [] => by
      rw [buildMembers]
      exact hg
  | (key, v) :: rest => by
      rw [buildMembers]
      split
      · have hv := buildValue_induction ensure observe (observe g name key v hg)
          (Naming.typeName key) v
        exact buildMembers_induction ensure observe hv name rest
      · exact buildMembers_induction ensure observe hg name rest

end

/-- A new graph holds the string type alone. -/
theorem every_new {builtins : Builtins}
    (hnew : ∀ generate, P builtins.stringType
      (.new 0 builtins.package builtins.stringType generate)) :
    (ClassGraph.new builtins).Every P := by
  have hempty : Every ⟨∅, builtins, 0, none, none⟩ P := by
    intro name c hc
    simp [find?] at hc
  exact hempty.ensure (hnew _)

end ClassGraph

end ClassInference
