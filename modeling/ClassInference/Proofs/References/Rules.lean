import ClassInference.Proofs.Order.Generators
import ClassInference.Proofs.References.Documents
import ClassInference.Proofs.TypeNames
import ClassInference.Proofs.TypeRenames.Effect
import Mathlib.Data.List.Induction

/-!
# References under rules

A type rename moves the class and maps every field that refers to it, so that a field refers to a
class of the graph or to the target of a rule. What a rule cannot map is a field whose type reads as
a primitive; this is a field of the string type at most, and that class stays where it is.
-/

namespace ClassInference

open OrderedTable
open Json (Value)

namespace ClassGraph

variable {g k : ClassGraph} {package name old n : String} {target : TypeSpec}

/-! ### Rules -/

/-- The type is that of a node or a target of a rule, and a rule that speaks of it maps its fields
or leaves its node. -/
structure Holds (g : ClassGraph) (targets : String → Prop) (n : String) : Prop where
  present : n ∈ g.names ∨ targets n
  mapped : g.resolveType n = .named n ∨ g.isBuiltin n = true

variable {targets : String → Prop}

theorem Holds.congr (h : g.Holds targets n) (hbuiltins : k.builtins = g.builtins)
    (hid : k.identity? n = g.identity? n) : k.Holds targets n where
  present := by
    rw [← isSome_identity?_iff, hid, isSome_identity?_iff]
    exact h.present
  mapped := by
    rw [resolveType_congr hbuiltins, isBuiltin_eq, isReserved_congr hbuiltins, hid, ← isBuiltin_eq]
    exact h.mapped

/-- All fields refer to types that the graph holds. -/
def HoldsReferences (targets : String → Prop) (g : ClassGraph) : Prop :=
  g.RefersWithin (g.Holds targets)

theorem HoldsReferences.setBase (hg : g.HoldsReferences targets) (sub base : String) :
    (g.setBase sub base).HoldsReferences targets := by
  have hfields : (g.setBase sub base).RefersWithin (g.Holds targets) :=
    Every.setBase hg (fun _ _ _ hc => hc) sub base
  refine hfields.mono fun n h => h.congr (g.builtins_edit (.setBase sub base)) ?_
  rw [identity?_setBase]

theorem HoldsReferences.renameField (hg : g.HoldsReferences targets) (rule : FieldRename) :
    HoldsReferences targets ((g.renameField? rule).getD g) := by
  have hfields : RefersWithin (g.Holds targets) ((g.renameField? rule).getD g) := by
    unfold renameField?
    split
    · refine Every.modify hg (fun _ c hc => ?_) _
      exact Content.refersWithin_mapFields hc fun t ht => ht.modify _ fun f hf => hf
    · exact hg
  refine hfields.mono fun n h => h.congr (g.builtins_edit (.renameField rule)) ?_
  rw [identity?_renameField]

theorem HoldsReferences.deleteField (hg : g.HoldsReferences targets) (rule : FieldDelete) :
    HoldsReferences targets ((g.deleteField? rule).getD g) := by
  have hfields : RefersWithin (g.Holds targets) ((g.deleteField? rule).getD g) := by
    unfold deleteField?
    split
    · refine Every.modify hg (fun _ c hc => ?_) _
      exact Content.refersWithin_mapFields hc fun t ht => ht.erase _
    · exact hg
  refine hfields.mono fun n h => h.congr (g.builtins_edit (.deleteField rule)) ?_
  rw [identity?_deleteField]

theorem resolveType_eq_named_iff {m : String} (h : g.resolveType m = .named n) : m = n := by
  unfold resolveType TypeRef.parseAliased TypeRef.parse at h
  split at h
  · simp at h
  · split at h <;> simp_all

/-- A type that a rename does not map is still held: its node is another one or built in. -/
theorem Holds.renameType (h : g.Holds targets n) (hn : g.resolveType old ≠ .named n)
    (target : TypeSpec) : (g.renameType old target).Holds targets n := by
  have hbuiltins := g.builtins_renameType old target
  by_cases hold : old = n
  · have hbuiltin : g.isBuiltin old = true := by
      subst hold
      exact h.mapped.resolve_left hn
    refine h.congr hbuiltins ?_
    rw [identity?_renameType, moveClass_of_stays (.inl hbuiltin)]
  · by_cases hmem : n ∈ g.names
    · exact h.congr hbuiltins
        (g.identity?_renameType_of_mem_names hmem fun he => absurd he hold)
    · -- a target without a node is no built-in one
      refine ⟨.inr (h.present.resolve_left hmem), .inl ?_⟩
      have hnot : g.isBuiltin n ≠ true := by
        rw [isBuiltin, find?_eq_none_iff.2 hmem]
        simp
      rw [resolveType_congr hbuiltins]
      exact h.mapped.resolve_right hnot

theorem HoldsReferences.renameType (hg : g.HoldsReferences targets) (old : String)
    (htarget : targets target.name) : (g.renameType old target).HoldsReferences targets := by
  have hmoved : (g.moveClass old target.name).RefersWithin (g.Holds targets) :=
    EveryContent.moveClass mergeInvariant_refersWithin hg old target.name
  have hbuiltins := g.builtins_renameType old target
  intro name c hc
  rw [find?_renameType] at hc
  obtain ⟨d, hd, rfl⟩ := Option.map_eq_some_iff.1 hc
  refine Content.refersWithin_mapFields (hmoved hd) fun t ht => ht.map fun _ f hf n hn => ?_
  rw [Field.typeRef_retype] at hn
  split at hn
  · -- a mapped field has the target's type
    have hname : target.name = n := resolveType_eq_named_iff hn
    subst hname
    refine ⟨.inr htarget, .inl ?_⟩
    rw [resolveType_congr hbuiltins, hn]
  · rename_i hkept
    exact (hf n hn).renameType (fun he => hkept (hn.trans he.symm)) target

/-- Rules keep every field referring to a class or to a target of theirs. -/
theorem HoldsReferences.applyRules {r : RuleSet} (hg : g.HoldsReferences targets)
    (htargets : ∀ e ∈ r.typeRenames.entries, targets e.2.name) :
    (g.applyRules r).HoldsReferences targets := by
  apply applyRules_induction (motive := HoldsReferences targets) _ _ _ _ hg
  · exact fun _ sub base hk => hk.setBase sub base
  · exact fun _ e he hk => hk.renameType e.1 (htargets e he)
  · exact fun _ rule hk => hk.renameField rule
  · exact fun _ rule hk => hk.deleteField rule

/-! ### Built-in string types -/

/-- A type of the language itself is that of a built-in node. -/
def KeepsStringType (g : ClassGraph) : Prop := g.isBuiltin g.builtins.stringType = true

theorem KeepsStringType.ensure (hg : g.KeepsStringType) (package name : String) :
    (g.ensure package name).KeepsStringType := by
  have hbuiltins := g.builtins_ensure package name
  have hid := identity?_ensure_of_mem_names (mem_names_of_isBuiltin hg) package name
  rw [KeepsStringType, hbuiltins, isBuiltin_congr hbuiltins hid]
  exact hg

theorem KeepsStringType.modify (hg : g.KeepsStringType) (name : String)
    {f : ClassNode → ClassNode} (hf : ∀ c, (f c).identity = c.identity) :
    (g.modify name f).KeepsStringType := by
  have hid := congrFun (identity?_modify hf g name) g.builtins.stringType
  rw [KeepsStringType]
  exact (isBuiltin_congr (by rfl) hid).trans hg

theorem keepsStringType_new {builtins : Builtins}
    (hreserved : (ClassGraph.new builtins).isReserved builtins.package = true) :
    (ClassGraph.new builtins).KeepsStringType := by
  have hbuiltins : (ClassGraph.new builtins).builtins = builtins := builtins_ensure _ _ _
  rw [KeepsStringType, hbuiltins, isBuiltin]
  split
  · rename_i c hc
    have hpackage : (ClassGraph.new builtins).Every fun _ c => c.package = builtins.package :=
      every_new fun _ => rfl
    rw [hpackage hc, hreserved]
  · rename_i hnone
    exact absurd (mem_names_ensure.2 (.inl rfl)) (find?_eq_none_iff.1 hnone)

theorem KeepsStringType.buildAll (hg : g.KeepsStringType) (package name : String)
    (documents : List Value) : (g.buildAll package name documents).KeepsStringType := by
  refine List.foldlRecOn (motive := KeepsStringType) _ _ hg fun k hk document _ => ?_
  apply buildValue_induction (motive := KeepsStringType) _ _ hk
  · exact fun _ name h => h.ensure package name
  · exact fun _ name key v h => h.modify name fun _ => rfl

/-- A type that documents name is held as soon as its class is there. -/
theorem KeepsStringType.holds_typeName (hg : g.KeepsStringType) {key : String}
    (hmem : Naming.typeName key ∈ g.names) : g.Holds targets (Naming.typeName key) := by
  refine ⟨.inl hmem, ?_⟩
  rw [resolveType, TypeRef.parseAliased]
  split
  · rename_i hstring
    rw [hstring]
    exact .inr hg
  · rw [TypeRef.parse, Naming.ofName?_typeName]
    exact .inl rfl

/-- Enumerations have no fields and leave the string type built in. -/
theorem withEnumerations_spec {builtins : Builtins}
    (hreserved : (ClassGraph.new builtins).isReserved builtins.package = true)
    (es : List Enumeration) :
    (withEnumerations builtins es).RefersWithin (fun _ => False) ∧
      (withEnumerations builtins es).KeepsStringType := by
  induction es using List.reverseRecOn with
  | nil => exact ⟨every_new fun _ => refersWithin_empty, keepsStringType_new hreserved⟩
  | append_singleton es e ih =>
      obtain ⟨hfields, hstring⟩ := ih
      rw [withEnumerations_concat, declareEnum]
      constructor
      · exact (hfields.ensure refersWithin_empty).modify (fun _ _ _ => refersWithin_empty) e.name
      · exact (hstring.ensure e.package e.name).modify e.name fun _ => rfl

end ClassGraph

namespace Generator

open ClassGraph

theorem isReserved_preset {dialect : Dialect} (hd : dialect = .java ∨ dialect = .csharp) :
    (ClassGraph.new dialect.builtins).isReserved dialect.builtins.package = true := by
  rcases hd with rfl | rfl <;> decide +kernel

/-- In the graph with which a generator of a preset finishes, a field whose type has a name refers
to a class of the graph or to the target of a type rename. -/
theorem mem_names_or_target_of_finish {dialect : Dialect}
    (hd : dialect = .java ∨ dialect = .csharp) (package rootClass : String)
    (preparations : List Preparation) (documents : List Value) :
    let g := ((new package rootClass dialect).prepareAll preparations).observeAll documents
    ∀ c ∈ g.finish.2.nodes, ∀ f ∈ c.fields, ∀ n, f.typeRef = .named n →
      n ∈ g.finish.2.names ∨ ∃ e ∈ g.rules.typeRenames.entries, e.2.name = n := by
  intro g c hc f hf n hn
  have hprepared := (prepared_new package rootClass dialect).prepareAll preparations
  have hfinish := hprepared.finish documents
  obtain ⟨hfields, hstring⟩ := withEnumerations_spec (isReserved_preset hd)
    ([] ++ preparations.filterMap Preparation.enumeration?)
  -- the types that documents show are held, and the rules keep it so
  have hbuilt := refersWithin_buildAll hfields package rootClass documents
  have hstring := hstring.buildAll package rootClass documents
  generalize (withEnumerations dialect.builtins _).buildAll package rootClass documents = built
    at hfinish hbuilt hstring
  let targets : String → Prop := fun n => ∃ e ∈ g.rules.typeRenames.entries, e.2.name = n
  have hrules : ((new package rootClass dialect).prepareAll preparations).rules = g.rules :=
    (observeAll_eq _ documents).1.symm
  have hheld : (built.applyRules g.rules).HoldsReferences targets := by
    apply HoldsReferences.applyRules
    · refine hbuilt.mono ?_
      rintro _ ⟨hmem, key, rfl⟩
      exact hstring.holds_typeName hmem
    · exact fun e he => ⟨e, he, rfl⟩
  rw [hrules] at hfinish
  obtain ⟨name, hname⟩ := mem_values_iff.1 hc
  obtain ⟨key, hkey⟩ := mem_values_iff.1 hf
  exact ((hheld.of_alike hfinish) hname hkey n hn).present.imp_left hfinish.mem_names_iff.1

/-- A class is folded, another one becomes a primitive, and the string type a type of which there is
no class; an enumeration is referred to. -/
def retargetingRules : RuleSet :=
  ((((∅ : RuleSet).mapType "B" ⟨"A", true⟩).mapType "C" ⟨"int", false⟩).mapType "String"
    ⟨"Date", false⟩)

theorem mem_names_or_target_retargetingRules :
    let g := ((new "p" "R" .java).prepareAll [.enumeration colors, .rules retargetingRules]
      ).observeAll [nestedDocument, listedDocument]
    (Dialect.java = .java ∨ Dialect.java = .csharp) ∧
      (∃ c ∈ g.finish.2.nodes, ∃ f ∈ c.fields, f.typeRef = .named "Date") ∧
      ∀ c ∈ g.finish.2.nodes, ∀ f ∈ c.fields, ∀ n, f.typeRef = .named n →
        n ∈ g.finish.2.names ∨ ∃ e ∈ g.rules.typeRenames.entries, e.2.name = n := by
  intro g
  have hdate : ∃ c ∈ g.finish.2.nodes, ∃ f ∈ c.fields, f.typeRef = .named "Date" := by
    decide +kernel
  exact ⟨.inl rfl, hdate, mem_names_or_target_of_finish (.inl rfl) "p" "R" _ _⟩

end Generator

end ClassInference
