import ClassInference.Proofs.Inheritance.Merging

/-!
# What a merge spares

A merge goes up the base links of its target. It leaves alone every node that these do not lead to,
and every node that it has been through: the target takes in the merged content once, whatever is
merged above it.
-/

namespace ClassInference

namespace ClassGraph

open Relation

variable {g : ClassGraph} {a : String} {met : List String} {target : String} {other : ClassNode}

/-- The content of the node of a name. -/
def content? (g : ClassGraph) (name : String) : Option Content := (g.find? name).map (·.content)

theorem content?_eq_some_iff {c : Content} :
    g.content? a = some c ↔ ∃ node, g.find? a = some node ∧ node.content = c := by
  rw [content?, Option.map_eq_some_iff]

/-! ### Single operations -/

theorem find?_modify_of_ne {name : String} (h : a ≠ name) (f : ClassNode → ClassNode) :
    (g.modify name f).find? a = g.find? a := by
  rw [find?_modify, if_neg h]

theorem find?_setBase_of_ne {sub : String} (h : a ≠ sub) (base : String) :
    (g.setBase sub base).find? a = g.find? a := by
  unfold setBase setBase?
  split
  · exact find?_modify_of_ne h _
  · rfl

theorem content?_modify {f : ClassNode → ClassNode} (hf : ∀ c, (f c).content = c.content)
    (g : ClassGraph) (name : String) : (g.modify name f).content? = g.content? := by
  funext n
  rw [content?, find?_modify, content?]
  split
  · cases g.find? n <;> simp [hf]
  · rfl

theorem content?_setBase (g : ClassGraph) (sub base : String) :
    (g.setBase sub base).content? = g.content? := by
  unfold setBase setBase?
  split
  · exact content?_modify (fun _ => by rfl) g sub
  · rfl

theorem content?_redirectBases (g : ClassGraph) (old new : String) :
    (g.redirectBases old new).content? = g.content? := by
  have hnode : ∀ c : ClassNode, (if c.base = some old then
      { c with base := if c.name = new then none else some new } else c).content = c.content := by
    intro c
    split <;> rfl
  funext n
  rw [content?, redirectBases, find?_mapNodes, content?, Option.map_map]
  exact Option.map_congr fun c _ => hnode c

theorem content?_mergeContent {node : ClassNode} (hf : g.find? target = some node)
    (other : ClassNode) :
    (g.modify target (·.mergeContent other)).content? target
      = some (node.content.merge other.content) := by
  rw [content?, find?_modify, if_pos rfl, hf]
  rfl

/-! ### Merging -/

/-- No node is merged into twice. -/
theorem find?_mergeFrom_of_mem (ha : a ∈ met) :
    (g.mergeFrom met target other).find? a = g.find? a := by
  have hne : ∀ {met : List String} {target : String}, a ∈ met → target ∉ met → a ≠ target := by
    rintro met target ha ht rfl
    exact ht ha
  fun_induction mergeFrom g met target other with
  | case1 => rfl
  | case2 => rfl
  | case3 g met target other hm => exact find?_modify_of_ne (hne ha hm) _
  | case4 g met target other hm => exact find?_modify_of_ne (hne ha hm) _
  | case5 g met target other hm node hf merged own theirs _ _ _ next _ _ ih =>
      rw [ih (List.mem_cons_of_mem _ ha)]
      exact find?_modify_of_ne (hne ha hm) _
  | case6 g met target other hm =>
      rw [find?_setBase_of_ne (hne ha hm)]
      exact find?_modify_of_ne (hne ha hm) _
  | case7 g met target other hm => exact find?_modify_of_ne (hne ha hm) _

/-- Nothing is merged into a node that the target does not lead to. -/
theorem find?_mergeFrom_of_not_reflTransGen (ha : ¬ ReflTransGen g.Derives target a) :
    (g.mergeFrom met target other).find? a = g.find? a := by
  have hne : ∀ {g : ClassGraph} {target : String}, ¬ ReflTransGen g.Derives target a →
      a ≠ target := by
    rintro g target ha rfl
    exact ha .refl
  fun_induction mergeFrom g met target other with
  | case1 => rfl
  | case2 => rfl
  | case3 => exact find?_modify_of_ne (hne ha) _
  | case4 => exact find?_modify_of_ne (hne ha) _
  | case5 g met target other _ node hf merged own theirs _ hown _ next _ _ ih =>
      -- what the base leads to, the target leads to over one link more
      have habove : ¬ ReflTransGen merged.Derives own a := by
        intro hp
        have hlink : g.Derives target own := (derives_iff_of_find? hf).2 hown
        have hold : ReflTransGen g.Derives own a :=
          ReflTransGen.mono (fun _ _ => (keepsLinks_mergeContent g target other).derives_iff.1)
            _ _ hp
        exact ha (.head hlink hold)
      rw [ih habove]
      exact find?_modify_of_ne (hne ha) _
  | case6 =>
      rw [find?_setBase_of_ne (hne ha)]
      exact find?_modify_of_ne (hne ha) _
  | case7 => exact find?_modify_of_ne (hne ha) _

/-- The target of a merge has taken in the content, once. -/
theorem content?_mergeFrom {node : ClassNode} (hm : target ∉ met)
    (hf : g.find? target = some node) (other : ClassNode) :
    (g.mergeFrom met target other).content? target = some (node.content.merge other.content) := by
  have hmerged := content?_mergeContent hf other
  rw [mergeFrom_of_find? hm hf]
  split
  · split
    · exact hmerged
    · cases (g.modify target (·.mergeContent other)).find? _ with
      | none => exact hmerged
      | some next =>
          rw [Option.elim_some, content?, find?_mergeFrom_of_mem List.mem_cons_self]
          exact hmerged
  · rw [content?_setBase]
    exact hmerged
  · exact hmerged

end ClassGraph

end ClassInference
