import ClassInference.Proofs.Fields.Overlay
import ClassInference.Proofs.Inheritance.Links

/-!
# Field views of the hierarchy

The views of a class walk the base links each in its own way: the effective fields by a table that
grows from the farthest ancestor on, the declared fields by asking that table of the base, the
constructor's fields along the list of ancestors. Where no class lies above itself, each view of a
class is the view of its base and what the class adds.
-/

namespace ClassInference

namespace ClassGraph

open Relation OrderedTable

variable {g : ClassGraph} {a b : String} {c : ClassNode} {met met' : List String}

theorem FieldsKeyed.nodup_wireNames (hk : g.FieldsKeyed) (hc : g.find? a = some c) :
    (c.fields.map (·.wireName)).Nodup := by
  rw [ClassNode.fields, (hk hc).map_wireName_values]
  exact c.content.fields.nodup

/-! ### The walk that collects fields -/

theorem effectiveFrom_of_mem (h : a ∈ met) : g.effectiveFrom met a = ∅ := by
  rw [effectiveFrom, dif_pos h]

theorem effectiveFrom_of_find?_none (h : g.find? a = none) : g.effectiveFrom met a = ∅ := by
  rw [effectiveFrom]
  split
  · rfl
  · split
    · rfl
    · simp_all

theorem effectiveFrom_of_find? (hm : a ∉ met) (hc : g.find? a = some c) :
    g.effectiveFrom met a
      = overlay (c.base.elim ∅ (g.effectiveFrom (a :: met))) c.fields := by
  rw [effectiveFrom, dif_neg hm]
  split
  · simp_all
  · rename_i d hd
    obtain rfl := Option.some.inj (hd.symm.trans hc)
    cases d.base <;> rfl

theorem keyed_effectiveFrom (g : ClassGraph) (met : List String) (name : String) :
    (g.effectiveFrom met name).Keyed := by
  fun_induction effectiveFrom g met name with
  | case1 => exact keyed_empty
  | case2 => exact keyed_empty
  | case3 met name hm d hd _ ih =>
      apply keyed_overlay
      cases hb : d.base with
      | none => exact keyed_empty
      | some b => exact ih b

/-- The walk depends on the names it leaves out only where it can reach them. -/
theorem effectiveFrom_congr
    (h : ∀ b, ReflTransGen g.Derives a b → (b ∈ met ↔ b ∈ met')) :
    g.effectiveFrom met a = g.effectiveFrom met' a := by
  fun_induction effectiveFrom g met a generalizing met' with
  | case1 met name hm => rw [effectiveFrom_of_mem ((h name .refl).1 hm)]
  | case2 met name hm hf => rw [effectiveFrom_of_find?_none hf]
  | case3 met name hm d hd _ ih =>
      rw [effectiveFrom_of_find? (mt (h name .refl).2 hm) hd]
      congr 1
      cases hb : d.base with
      | none => rfl
      | some b =>
          apply ih b
          intro e hbe
          have he := h e (.head ((derives_iff_of_find? hd).2 hb) hbe)
          rw [List.mem_cons, List.mem_cons, he]

/-- What lies above a class does not lead back to it, so that a walk from its base may leave the
class out. -/
theorem Acyclic.effectiveFrom_of_derives (hg : g.Acyclic) (h : g.Derives a b) :
    g.effectiveFrom [a] b = g.effectiveTable b := by
  apply effectiveFrom_congr
  intro e hbe
  have hne : e ≠ a := by
    rintro rfl
    exact hg e (.head' h hbe)
  simp [hne]

/-! ### Every view from the base -/

/-- The effective fields of the base of a node. -/
def inheritedTable (g : ClassGraph) (c : ClassNode) : OrderedTable Field :=
  c.base.elim ∅ g.effectiveTable

def inheritedFields (g : ClassGraph) (c : ClassNode) : List Field :=
  c.base.elim [] g.effectiveFields

theorem values_inheritedTable (g : ClassGraph) (c : ClassNode) :
    (g.inheritedTable c).values = g.inheritedFields c := by
  unfold inheritedTable inheritedFields
  cases c.base <;> rfl

theorem keyed_inheritedTable (g : ClassGraph) (c : ClassNode) : (g.inheritedTable c).Keyed := by
  unfold inheritedTable
  cases c.base with
  | none => exact keyed_empty
  | some b => exact keyed_effectiveFrom g [] b

theorem keys_inheritedTable (g : ClassGraph) (c : ClassNode) :
    (g.inheritedTable c).keys = (g.inheritedFields c).map (·.wireName) := by
  rw [← values_inheritedTable, (keyed_inheritedTable g c).map_wireName_values]

theorem map_wireName_effectiveFields (g : ClassGraph) (a : String) :
    (g.effectiveFields a).map (·.wireName) = (g.effectiveTable a).keys :=
  (keyed_effectiveFrom g [] a).map_wireName_values

theorem Acyclic.effectiveTable_eq (hg : g.Acyclic) (hc : g.find? a = some c) :
    g.effectiveTable a = overlay (g.inheritedTable c) c.fields := by
  rw [effectiveTable, effectiveFrom_of_find? List.not_mem_nil hc, inheritedTable]
  cases hb : c.base with
  | none => rfl
  | some b =>
      have hd : g.Derives a b := (derives_iff_of_find? hc).2 hb
      rw [Option.elim_some, Option.elim_some, hg.effectiveFrom_of_derives hd]

theorem Acyclic.inherits_eq (hg : g.Acyclic) (hc : g.find? a = some c) (wireName : String) :
    g.inherits a wireName = (g.inheritedTable c).contains wireName := by
  have hb : g.baseName? a = c.base := by simp [baseName?, hc]
  rw [inherits, hb, inheritedTable]
  cases hbase : c.base with
  | none => rfl
  | some b => rw [Option.elim_some, ← hg.effectiveFrom_of_derives (hb.trans hbase)]

theorem Acyclic.effectiveFields_eq (hg : g.Acyclic) (hk : g.FieldsKeyed)
    (hc : g.find? a = some c) :
    g.effectiveFields a
      = (g.inheritedFields c).map (fun f => (c.field? f.wireName).getD f)
        ++ c.fields.filter (·.wireName ∉ (g.inheritedFields c).map (·.wireName)) := by
  rw [effectiveFields, hg.effectiveTable_eq hc,
    values_overlay (keyed_inheritedTable g c) (hk.nodup_wireNames hc), values_inheritedTable,
    keys_inheritedTable]
  simp only [ClassNode.fields, (hk hc).find?_values, ClassNode.field?]

theorem Acyclic.declaredFields_eq (hg : g.Acyclic) (hc : g.find? a = some c) :
    g.declaredFields a
      = c.fields.filter (·.wireName ∉ (g.inheritedFields c).map (·.wireName)) := by
  have hown : g.ownFields a = c.fields := by simp [ownFields, hc]
  rw [declaredFields, hown]
  apply List.filter_congr
  intro f _
  rw [hg.inherits_eq hc, OrderedTable.contains, keys_inheritedTable, List.contains_eq_mem,
    decide_not]

theorem Acyclic.constructorFields_of_derives (hg : g.Acyclic) (h : g.Derives a b) :
    g.constructorFields a = g.constructorFields b ++ g.declaredFields a := by
  rw [constructorFields, hg.ancestors_of_derives h, constructorFields]
  simp

theorem constructorFields_of_baseName? (h : g.baseName? a = none) :
    g.constructorFields a = g.declaredFields a := by
  rw [constructorFields, ancestors_of_baseName? h]
  rfl

theorem Acyclic.constructorFields_eq (hg : g.Acyclic) (hc : g.find? a = some c) :
    g.constructorFields a = c.base.elim [] g.constructorFields ++ g.declaredFields a := by
  cases hb : c.base with
  | none => simpa using constructorFields_of_baseName? (by simp [baseName?, hc, hb])
  | some b => exact hg.constructorFields_of_derives ((derives_iff_of_find? hc).2 hb)

/-! ### Agreement of the views -/

theorem views_of_find?_none (h : g.find? a = none) :
    g.effectiveFields a = [] ∧ g.constructorFields a = [] := by
  have hbase : g.baseName? a = none := by simp [baseName?, h]
  constructor
  · rw [effectiveFields, effectiveTable, effectiveFrom_of_find?_none h]
    rfl
  · rw [constructorFields_of_baseName? hbase, declaredFields, ownFields, h]
    rfl

theorem Acyclic.mem_wireNames_effectiveFields_iff (hg : g.Acyclic) (hk : g.FieldsKeyed)
    (hc : g.find? a = some c) {wireName : String} :
    wireName ∈ (g.effectiveFields a).map (·.wireName) ↔
      wireName ∈ (g.inheritedFields c).map (·.wireName)
        ∨ wireName ∈ c.fields.map (·.wireName) := by
  rw [map_wireName_effectiveFields, hg.effectiveTable_eq hc,
    mem_keys_overlay (hk.nodup_wireNames hc), keys_inheritedTable]

theorem Acyclic.mem_wireNames_declaredFields_iff (hg : g.Acyclic) (hc : g.find? a = some c)
    {wireName : String} :
    wireName ∈ (g.declaredFields a).map (·.wireName) ↔
      wireName ∉ (g.inheritedFields c).map (·.wireName)
        ∧ wireName ∈ c.fields.map (·.wireName) := by
  rw [hg.declaredFields_eq hc]
  simp only [List.mem_map, List.mem_filter, decide_eq_true_eq]
  constructor
  · rintro ⟨f, ⟨hf, hnew⟩, rfl⟩
    exact ⟨hnew, f, hf, rfl⟩
  · rintro ⟨hnew, f, hf, rfl⟩
    exact ⟨f, ⟨hf, hnew⟩, rfl⟩

/-- The fields have different wire names, which are those of `others`. -/
def ListsOnce (fields others : List Field) : Prop :=
  (fields.map (·.wireName)).Nodup ∧
    ∀ wireName, wireName ∈ fields.map (·.wireName) ↔ wireName ∈ others.map (·.wireName)

/-- What a class declares itself extends an agreement of the views of its base. -/
theorem Acyclic.listsOnce_of_base (hg : g.Acyclic) (hk : g.FieldsKeyed) (hc : g.find? a = some c)
    (hbase : ListsOnce (c.base.elim [] g.constructorFields) (g.inheritedFields c)) :
    ListsOnce (g.constructorFields a) (g.effectiveFields a) := by
  obtain ⟨hnodup, habove⟩ := hbase
  have hdeclared : ((g.declaredFields a).map (·.wireName)).Nodup := by
    rw [hg.declaredFields_eq hc]
    exact (hk.nodup_wireNames hc).sublist (List.filter_sublist.map _)
  constructor
  · rw [hg.constructorFields_eq hc, List.map_append, List.nodup_append]
    refine ⟨hnodup, hdeclared, ?_⟩
    rintro w hw _ hw' rfl
    exact ((hg.mem_wireNames_declaredFields_iff hc).1 hw').1 ((habove w).1 hw)
  · intro w
    rw [hg.constructorFields_eq hc, List.map_append, List.mem_append, habove,
      hg.mem_wireNames_declaredFields_iff hc, hg.mem_wireNames_effectiveFields_iff hk hc]
    by_cases hw : w ∈ (g.inheritedFields c).map (·.wireName) <;> simp [hw]

theorem Acyclic.listsOnce_constructorFields (hg : g.Acyclic) (hk : g.FieldsKeyed) (a : String) :
    ListsOnce (g.constructorFields a) (g.effectiveFields a) := by
  induction a using hg.induction with
  | root a hroot =>
      cases hc : g.find? a with
      | none => simp [views_of_find?_none hc, ListsOnce]
      | some c =>
          have hbase : c.base = none := by simpa [baseName?, hc] using hroot
          apply hg.listsOnce_of_base hk hc
          simp [inheritedFields, hbase, ListsOnce]
  | derived a b h ih =>
      obtain ⟨c, hc, hbase⟩ := Option.bind_eq_some_iff.1 h
      apply hg.listsOnce_of_base hk hc
      simpa [inheritedFields, hbase] using ih

/-- The views of the node `c` of the name `a`, each from that of the base of `c`: an own field takes
the place of the inherited field of its wire name, the other own fields come last and are what the
class declares, and the constructor takes the parameters of the base's and then the declared fields,
which are the effective wire names, each once. -/
structure CoherentViews (g : ClassGraph) (a : String) (c : ClassNode) : Prop where
  effectiveFields : g.effectiveFields a
    = (g.inheritedFields c).map (fun f => (c.field? f.wireName).getD f)
      ++ c.fields.filter (·.wireName ∉ (g.inheritedFields c).map (·.wireName))
  declaredFields : g.declaredFields a
    = c.fields.filter (·.wireName ∉ (g.inheritedFields c).map (·.wireName))
  constructorFields : g.constructorFields a
    = c.base.elim [] g.constructorFields ++ g.declaredFields a
  wireNames : ListsOnce (g.constructorFields a) (g.effectiveFields a)

/-- The views of every class are coherent, at any depth and whatever is shadowed. -/
theorem coherentViews (hg : g.Acyclic) (hk : g.FieldsKeyed) (hc : g.find? a = some c) :
    g.CoherentViews a c where
  effectiveFields := hg.effectiveFields_eq hk hc
  declaredFields := hg.declaredFields_eq hc
  constructorFields := hg.constructorFields_eq hc
  wireNames := hg.listsOnce_constructorFields hk a

/-- `Heir` derives from `Middle` and that from `Root`; both redefine keys of what they derive
from. -/
def shadowingCalls : List Call :=
  [.edit (.build (.object [("id", .bool true), ("name", .bool true)]) "p" "Root"),
    .edit (.build (.object [("name", .string "x"), ("size", .string "x")]) "p" "Middle"),
    .edit (.build (.object [("note", .null), ("size", .null), ("id", .null)]) "p" "Heir"),
    .edit (.setBase "Heir" "Middle"), .edit (.setBase "Middle" "Root")]

theorem coherentViews_shadowingCalls :
    ∃ c, ((new ⟨"java.lang", "String", "java"⟩).runCalls shadowingCalls).find? "Heir" = some c ∧
      ((new ⟨"java.lang", "String", "java"⟩).runCalls shadowingCalls).CoherentViews "Heir" c := by
  have hg : ((new ⟨"java.lang", "String", "java"⟩).runCalls shadowingCalls).Acyclic := by
    decide +kernel
  have hc : (((new ⟨"java.lang", "String", "java"⟩).runCalls shadowingCalls).find?
      "Heir").isSome = true := by
    decide +kernel
  obtain ⟨c, hc⟩ := Option.isSome_iff_exists.1 hc
  exact ⟨c, hc, coherentViews hg (fieldsKeyed_runCalls _ _) hc⟩

end ClassGraph

end ClassInference
