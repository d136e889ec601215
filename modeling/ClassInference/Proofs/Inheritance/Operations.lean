import ClassInference.ClassGraph.Build
import ClassInference.ClassGraph.Rules
import ClassInference.Proofs.Inheritance.Links
import ClassInference.Proofs.Nodes

/-!
# Operations on base links

What each operation of a class graph does to the base links. Most of them keep every link; setting a
base adds one link that closes no cycle, and merging adds at most one such link, to a class above
the merged one.
-/

namespace ClassInference

namespace ClassGraph

open Relation
open Json (Value)

variable {g k l : ClassGraph} {a b sub base : String}

/-- Every node stands under its own name. -/
def Named (g : ClassGraph) : Prop := g.Every fun name c => c.name = name

/-- Every base link leads to a node. -/
def Resolved (g : ClassGraph) : Prop := ∀ ⦃sub base⦄, g.Derives sub base → base ∈ g.names

/-! ### Operations that keep the links -/

/-- No node of `g` is missing in `k`, and the base links are the same. -/
structure KeepsLinks (g k : ClassGraph) : Prop where
  mem_names : ∀ name ∈ g.names, name ∈ k.names
  baseName? : ∀ name, k.baseName? name = g.baseName? name
  named : g.Named → k.Named

theorem KeepsLinks.refl (g : ClassGraph) : g.KeepsLinks g := ⟨fun _ h => h, fun _ => rfl, id⟩

theorem KeepsLinks.trans (h : g.KeepsLinks k) (h' : k.KeepsLinks l) : g.KeepsLinks l where
  mem_names name hn := h'.mem_names name (h.mem_names name hn)
  baseName? name := (h'.baseName? name).trans (h.baseName? name)
  named hg := h'.named (h.named hg)

theorem KeepsLinks.derives_iff (h : g.KeepsLinks k) : k.Derives a b ↔ g.Derives a b := by
  rw [Derives, h.baseName?, Derives]

theorem KeepsLinks.acyclic (h : g.KeepsLinks k) (hg : g.Acyclic) : k.Acyclic :=
  hg.mono fun _ _ => h.derives_iff.1

theorem KeepsLinks.resolved (h : g.KeepsLinks k) (hg : g.Resolved) : k.Resolved := by
  intro sub base hd
  exact h.mem_names base (hg (h.derives_iff.1 hd))

theorem keepsLinks_foldl {α : Type*} {f : ClassGraph → α → ClassGraph}
    (h : ∀ g x, KeepsLinks g (f g x)) (xs : List α) (g : ClassGraph) :
    g.KeepsLinks (xs.foldl f g) := by
  induction xs generalizing g with
  | nil => exact .refl g
  | cons x xs ih => exact (h g x).trans (ih (f g x))

theorem baseName?_modify (g : ClassGraph) (name : String) (f : ClassNode → ClassNode) (n : String) :
    (g.modify name f).baseName? n
      = if n = name then (g.find? n).bind fun c => (f c).base else g.baseName? n := by
  unfold baseName?
  rw [find?_modify]
  by_cases hn : n = name
  · cases g.find? n <;> simp [hn]
  · simp [hn]

/-- Changing a node in its content alone. -/
theorem keepsLinks_modify {f : ClassNode → ClassNode} (hb : ∀ c, (f c).base = c.base)
    (hn : ∀ c, (f c).name = c.name) (g : ClassGraph) (name : String) :
    g.KeepsLinks (g.modify name f) where
  mem_names n h := by rwa [names_modify]
  baseName? n := by
    rw [baseName?_modify, ClassGraph.baseName?]
    simp [hb]
  named hg := hg.modify (fun _ c hc => (hn c).trans hc) name

theorem keepsLinks_mapNodes {f : ClassNode → ClassNode} (hb : ∀ c, (f c).base = c.base)
    (hn : ∀ c, (f c).name = c.name) (g : ClassGraph) : g.KeepsLinks (g.mapNodes f) where
  mem_names n h := by rwa [names_mapNodes]
  baseName? n := by
    rw [ClassGraph.baseName?, find?_mapNodes, ClassGraph.baseName?]
    cases g.find? n <;> simp [hb]
  named hg := hg.mapNodes fun _ c hc => (hn c).trans hc

theorem keepsLinks_ensure (g : ClassGraph) (package name : String) :
    g.KeepsLinks (g.ensure package name) where
  mem_names n h := mem_names_ensure.2 (.inr h)
  baseName? n := by
    rw [ClassGraph.baseName?, find?_ensure, ClassGraph.baseName?]
    by_cases hn : n = name
    · subst hn
      cases g.find? n <;> simp [ClassNode.new]
    · simp [hn]
  named hg := hg.ensure rfl

theorem keepsLinks_declareEnum (g : ClassGraph) (package name : String)
    (constants : List EnumConstant) : g.KeepsLinks (g.declareEnum package name constants) := by
  apply (keepsLinks_ensure g package name).trans
  apply keepsLinks_modify <;> intro c <;> rfl

theorem keepsLinks_build (g : ClassGraph) (document : Value) (package name : String) :
    g.KeepsLinks (g.build document package name) := by
  apply buildValue_induction (motive := g.KeepsLinks) _ _ (.refl g)
  · intro k name hk
    exact hk.trans (keepsLinks_ensure k package name)
  · intro k name key v hk
    apply hk.trans
    apply keepsLinks_modify <;> intro c <;> rfl

theorem keepsLinks_adoptEmpty (g : ClassGraph) (c : ClassNode) : g.KeepsLinks (g.adoptEmpty c) := by
  unfold adoptEmpty
  split
  · exact .refl g
  · apply (keepsLinks_ensure g c.package c.name).trans
    apply keepsLinks_modify <;> intro d <;> rfl

theorem keepsLinks_renameField (g : ClassGraph) (rule : FieldRename) :
    g.KeepsLinks ((g.renameField? rule).getD g) := by
  unfold renameField?
  split
  · apply keepsLinks_modify <;> intro c <;> rfl
  · exact .refl g

theorem keepsLinks_deleteField (g : ClassGraph) (rule : FieldDelete) :
    g.KeepsLinks ((g.deleteField? rule).getD g) := by
  unfold deleteField?
  split
  · apply keepsLinks_modify <;> intro c <;> rfl
  · exact .refl g

end ClassGraph

end ClassInference
