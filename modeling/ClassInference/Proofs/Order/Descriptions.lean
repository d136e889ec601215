import ClassInference.ClassGraph.Description
import ClassInference.Dialect.Presets
import ClassInference.Generator
import ClassInference.Proofs.Fields.Views
import ClassInference.Proofs.Order.Edits

/-!
# Descriptions of alike graphs

Alike graphs have the same description up to the order of the classes and of the fields in a class.
So it is with the finished graphs of two generators that were prepared in the same way and have seen
the same documents, whatever the order of these.
-/

namespace ClassInference

open Json (Value)

/-- Two descriptions of a class that differ in the order of the fields. -/
inductive SameClass : Value → Value → Prop
  | fields (head : List (String × Value)) {fs fs' : List Value} (h : fs.Perm fs') :
      SameClass (.object (head ++ [("fields", .array fs)]))
        (.object (head ++ [("fields", .array fs')]))
  | equal (v : Value) : SameClass v v

/-- Two descriptions of a graph that differ in the order of the classes and in the order of the
fields of each class. -/
inductive SameSchema : Value → Value → Prop
  | classes {cs ds cs' : List Value} (hfields : List.Forall₂ SameClass cs ds)
      (horder : ds.Perm cs') :
      SameSchema (.object [("classes", .array cs)]) (.object [("classes", .array cs')])

theorem Field.Alike.describe {f f' : Field} (h : f.Alike f') : f'.describe = f.describe := by
  have htype := h.typeRef
  unfold Field.describe
  rw [htype]
  cases h with
  | reorder hos => simp [hos.length_eq, Field.name, isRenamed, hasCapitalWireName, needsWireName]

namespace ClassGraph

variable {g g' : ClassGraph} {c c' : ClassNode}

/-! ### Inherited fields -/

theorem alike_overlay {t t' u u' : OrderedTable Field} (hu : u.Keyed)
    (ht : t.Alike Field.Alike t') (h : u.Alike Field.Alike u') :
    (overlay t u.values).Alike Field.Alike (overlay t' u'.values) := by
  have hu' := Content.keyed_of_alike hu h
  intro key
  rw [get?_overlay (hu.map_wireName_values ▸ u.nodup),
    get?_overlay (hu'.map_wireName_values ▸ u'.nodup), hu.find?_values, hu'.find?_values]
  rcases (h key).eq_or_exists with ⟨hf, hf'⟩ | ⟨f, f', hf, hf', hff⟩
  · rw [hf, hf', Option.none_or, Option.none_or]
    exact ht key
  · rw [hf, hf']
    exact .some hff

/-- The own and inherited fields of a class are alike. -/
theorem Alike.effectiveFrom (h : g.Alike g') (hg : g.FieldsKeyed) (met : List String)
    (name : String) :
    (g.effectiveFrom met name).Alike Field.Alike (g'.effectiveFrom met name) := by
  fun_induction ClassGraph.effectiveFrom g met name with
  | case1 met name hm =>
      rw [effectiveFrom_of_mem hm]
      exact .refl Field.Alike.refl _
  | case2 met name hm hf =>
      rw [effectiveFrom_of_find?_none (h.find?_eq_none hf)]
      exact .refl Field.Alike.refl _
  | case3 met name hm c hc _ ih =>
      obtain ⟨c', hc', hcc⟩ := h.exists_find? hc
      rw [effectiveFrom_of_find? hm hc', hcc.base]
      apply alike_overlay (hg hc) _ hcc.content.fields
      cases c.base with
      | none => exact .refl Field.Alike.refl _
      | some base => exact ih base

theorem Alike.inherits (h : g.Alike g') (hg : g.FieldsKeyed) (name wireName : String) :
    g'.inherits name wireName = g.inherits name wireName := by
  unfold ClassGraph.inherits
  rw [h.baseName?]
  split
  · rw [Bool.eq_iff_iff, OrderedTable.contains_iff, OrderedTable.contains_iff]
    exact (h.effectiveFrom hg _ _).mem_keys_iff.symm
  · rfl

/-! ### Descriptions -/

theorem Alike.describeField (h : g.Alike g') (hg : g.FieldsKeyed) (hc : c.Alike c')
    {f f' : Field} (hf : f.Alike f') : g'.describeField c' f' = g.describeField c f := by
  rw [ClassGraph.describeField, h.inherits hg, hc.name, hf.wireName, hf.describe,
    ClassGraph.describeField]

theorem Alike.describeClass (h : g.Alike g') (hg : g.FieldsKeyed) (hc : c.Alike c') :
    SameClass (g.describeClass c) (g'.describeClass c') := by
  have hcontent := hc.content
  have hfield : ∀ f f' : Field, f.Alike f' → g.describeField c f = g'.describeField c' f' :=
    fun _ _ hf => (h.describeField hg hc hf).symm
  unfold ClassGraph.describeClass
  rw [hc.name, hc.package, hc.generate, hc.base]
  revert hcontent hfield
  generalize g.describeField c = describe, g'.describeField c' = describe', c.content = d,
    c'.content = d'
  intro hcontent hfield
  cases hcontent with
  | @record t t' ht =>
      obtain ⟨fs, hfs, horder⟩ := ht.values
      have hmap : t.values.map describe = fs.map describe' := by
        rw [← List.forall₂_eq_eq_eq, List.forall₂_map_left_iff, List.forall₂_map_right_iff]
        exact hfs.imp hfield
      dsimp only
      rw [hmap]
      exact .fields _ (horder.map describe')
  | enumeration constants => exact .equal _

theorem Alike.describe (h : g.Alike g') (hg : g.FieldsKeyed) :
    SameSchema g.describe g'.describe := by
  obtain ⟨cs, hcs, horder⟩ := h.classes.values
  have hclasses : List.Forall₂ SameClass (g.nodes.map g.describeClass)
      (cs.map g'.describeClass) := by
    rw [List.forall₂_map_left_iff, List.forall₂_map_right_iff]
    exact hcs.imp fun _ _ hc => h.describeClass hg hc
  exact .classes hclasses (horder.map _)

end ClassGraph

end ClassInference
