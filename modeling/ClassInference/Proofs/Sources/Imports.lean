import ClassInference.Proofs.Fields.Owners
import ClassInference.Proofs.Fields.Parameters
import Mathlib.Data.String.Basic

/-!
# Imports of a file

A file imports what its declaration uses and nothing else: the mark of wire names if a field of its
own has it, and whatever the parameters of its constructor and its base need. The parameters are the
fields that a class and the classes above it declare, so that a file also imports for types that
only a base mentions. The imports are listed in increasing order, each once.
-/

namespace ClassInference

/-! ### Sorted texts -/

namespace Declaration

variable {s t : String} {texts : List String}

theorem mem_insertSorted : t ∈ insertSorted s texts ↔ t = s ∨ t ∈ texts := by
  induction texts with
  | nil => simp [insertSorted]
  | cons u texts ih =>
      rw [insertSorted]
      split
      · simp
      · split
        · rename_i h
          simp [h]
        · rw [List.mem_cons, ih, List.mem_cons]
          tauto

theorem mem_sorted : t ∈ sorted texts ↔ t ∈ texts := by
  induction texts with
  | nil => rfl
  | cons s texts ih =>
      have hsorted : sorted (s :: texts) = insertSorted s (sorted texts) := rfl
      rw [hsorted, mem_insertSorted, ih, List.mem_cons]

theorem pairwise_insertSorted (h : texts.Pairwise (· < ·)) :
    (insertSorted s texts).Pairwise (· < ·) := by
  induction texts with
  | nil => exact List.pairwise_singleton _ s
  | cons u texts ih =>
      obtain ⟨hu, htexts⟩ := List.pairwise_cons.1 h
      rw [insertSorted]
      split
      · rename_i hlt
        refine List.pairwise_cons.2 ⟨?_, h⟩
        intro t ht
        rcases List.mem_cons.1 ht with rfl | ht
        · exact hlt
        · exact hlt.trans (hu t ht)
      · split
        · exact h
        · rename_i hnot hne
          have hgt : u < s := lt_of_le_of_ne (not_lt.1 hnot) (Ne.symm hne)
          refine List.pairwise_cons.2 ⟨?_, ih htexts⟩
          intro t ht
          rcases mem_insertSorted.1 ht with rfl | ht
          · exact hgt
          · exact hu t ht

theorem pairwise_sorted (texts : List String) : (sorted texts).Pairwise (· < ·) := by
  induction texts with
  | nil => exact .nil
  | cons s texts ih => exact pairwise_insertSorted ih

end Declaration

namespace ClassGraph

open Relation Declaration

variable {g : ClassGraph} {d : Dialect} {a package n text : String} {c : ClassNode} {f : Field}

/-! ### What is imported -/

/-- The name means a class of the graph that lives in a package to be imported from: neither the
own one nor one that the language provides. -/
structure ForeignClass (g : ClassGraph) (d : Dialect) (package name : String)
    (target : ClassNode) : Prop where
  find? : g.find? name = some target
  package_ne : target.package ≠ package
  not_builtin : target.package ≠ d.builtinPackage
  not_reserved : g.isReserved target.package = false

theorem classImport?_eq_some_iff :
    classImport? g d package n = some text ↔ ∃ target, g.ForeignClass d package n target ∧
      fill d.typeImport [("namespace", target.package), ("name", target.name)] = text := by
  rw [classImport?, Option.bind_eq_some_iff]
  refine exists_congr fun target => ?_
  constructor
  · rintro ⟨hfind, himport⟩
    split at himport
    · simp at himport
    · rename_i hfree
      rw [not_or, not_or, Bool.not_eq_true] at hfree
      exact ⟨⟨hfind, hfree.1, hfree.2.1, hfree.2.2⟩, Option.some.inj himport⟩
  · rintro ⟨⟨hfind, hpackage, hbuiltin, hreserved⟩, rfl⟩
    exact ⟨hfind, by rw [if_neg (by simp [hpackage, hbuiltin, hreserved])]⟩

/-- A class or a class above it declares the field, so that the constructor takes it. -/
def TakesParameter (g : ClassGraph) (name : String) (f : Field) : Prop :=
  ∃ b, ReflTransGen g.Derives name b ∧ f ∈ g.declaredFields b

theorem mem_constructorFields_iff : f ∈ g.constructorFields a ↔ g.TakesParameter a f := by
  have hlineage : f ∈ g.constructorFields a ↔ ∃ b ∈ a :: g.ancestors a, f ∈ g.declaredFields b := by
    rw [constructorFields, List.mem_append, List.mem_flatMap, List.exists_mem_cons_iff, or_comm]
    simp
  rw [hlineage]
  exact exists_congr fun b => and_congr_left fun _ => mem_lineage_iff

theorem mem_typeImports_iff :
    text ∈ typeImports g d package f ↔
      (f.isArray = true ∧ d.listImport = some text) ∨
        ∃ n, f.typeRef = .named n ∧
          if n = d.dateType then d.dateImport = some text
          else classImport? g d package n = some text := by
  rw [typeImports, List.mem_append]
  apply or_congr
  · cases f.isArray <;> simp
  · cases f.typeRef with
    | primitive p => simp
    | named n =>
        by_cases hn : n = d.dateType <;> simp [hn]

/-- The file of a class imports for its marked fields, for the parameters of its constructor and for
its base. -/
theorem mem_imports_record_iff (d : Dialect) (hr : c.content.isEnumeration = false) :
    text ∈ (g.declare d c).imports ↔
      (d.wireNameImport = some text ∧ ∃ f ∈ (g.declare d c).kind.fields, f.annotated = true) ∨
        (∃ f, g.TakesParameter c.name f ∧ text ∈ typeImports g d c.package f) ∨
        ∃ b, g.baseOf? c.name = some b ∧ classImport? g d c.package b.name = some text := by
  have himports : (g.declare d c).imports = sorted (planRecord g d c).1 := by
    cases hcontent : c.content with
    | record fields => rw [declare, hcontent]
    | enumeration constants => simp [hcontent, Content.isEnumeration] at hr
  have hfields : (g.declare d c).kind.fields = (planRecord g d c).2.fields := by
    rw [kind_declare_record d hr]
  rw [himports, mem_sorted, hfields]
  simp only [← mem_constructorFields_iff]
  dsimp only [planRecord, Kind.fields]
  rw [List.mem_append, List.mem_append, or_assoc, List.mem_flatMap]
  refine or_congr ?_ (or_congr_right ?_)
  · rw [← List.any_eq_true]
    split
    · rename_i hmarked
      rw [Option.mem_toList, and_iff_left hmarked]
    · rename_i hplain
      exact iff_of_false List.not_mem_nil fun h => hplain h.2
  · rw [Option.mem_toList, Option.bind_map, Option.bind_eq_some_iff]
    rfl

/-! ### What is used -/

/-- What the declaration of a class uses: the mark of wire names for a field of its own, lists,
dates and classes of other packages for the parameters, and a base of another package. -/
inductive Needs (g : ClassGraph) (d : Dialect) (c : ClassNode) : String → Prop where
  | wireName {f : FieldDecl} {text : String} (hf : f ∈ (g.declare d c).kind.fields)
      (hmark : f.annotated = true) (himport : d.wireNameImport = some text) : Needs g d c text
  | list {f : Field} {text : String} (hf : g.TakesParameter c.name f) (hlist : f.isArray = true)
      (himport : d.listImport = some text) : Needs g d c text
  | date {f : Field} {text : String} (hf : g.TakesParameter c.name f)
      (hdate : f.typeRef = .named d.dateType) (himport : d.dateImport = some text) :
      Needs g d c text
  | element {f : Field} {n : String} {target : ClassNode} (hf : g.TakesParameter c.name f)
      (htype : f.typeRef = .named n) (hdate : n ≠ d.dateType)
      (hforeign : g.ForeignClass d c.package n target) :
      Needs g d c (fill d.typeImport [("namespace", target.package), ("name", target.name)])
  | base {b target : ClassNode} (hb : g.baseOf? c.name = some b)
      (hforeign : g.ForeignClass d c.package b.name target) :
      Needs g d c (fill d.typeImport [("namespace", target.package), ("name", target.name)])

theorem needs_of_mem_typeImports (hf : g.TakesParameter c.name f)
    (h : text ∈ typeImports g d c.package f) : g.Needs d c text := by
  rcases mem_typeImports_iff.1 h with ⟨hlist, himport⟩ | ⟨n, htype, h⟩
  · exact .list hf hlist himport
  · split at h
    · rename_i hdate
      exact .date hf (hdate ▸ htype) h
    · rename_i hdate
      obtain ⟨target, hforeign, rfl⟩ := classImport?_eq_some_iff.1 h
      exact .element hf htype hdate hforeign

theorem Needs.mem_imports (h : g.Needs d c text) (hr : c.content.isEnumeration = false) :
    text ∈ (g.declare d c).imports := by
  rw [mem_imports_record_iff d hr]
  cases h with
  | wireName hf hmark himport => exact .inl ⟨himport, _, hf, hmark⟩
  | list hf hlist himport => exact .inr (.inl ⟨_, hf, mem_typeImports_iff.2 (.inl ⟨hlist, himport⟩)⟩)
  | date hf hdate himport =>
      have htext : text ∈ typeImports g d c.package _ :=
        mem_typeImports_iff.2 (.inr ⟨_, hdate, by rwa [if_pos rfl]⟩)
      exact .inr (.inl ⟨_, hf, htext⟩)
  | element hf htype hdate hforeign =>
      have himport := classImport?_eq_some_iff.2 ⟨_, hforeign, rfl⟩
      exact .inr (.inl ⟨_, hf, mem_typeImports_iff.2 (.inr ⟨_, htype, by rwa [if_neg hdate]⟩)⟩)
  | base hb hforeign =>
      exact .inr (.inr ⟨_, hb, classImport?_eq_some_iff.2 ⟨_, hforeign, rfl⟩⟩)

/-- In every dialect and on every graph the file of a class lists its imports in increasing order,
and they are what the declaration uses. -/
theorem imports_declare_exact (g : ClassGraph) (d : Dialect)
    (hr : c.content.isEnumeration = false) :
    (g.declare d c).imports.Pairwise (· < ·) ∧
      ∀ text, text ∈ (g.declare d c).imports ↔ g.Needs d c text := by
  refine ⟨pairwise_sorted _, fun text => ⟨?_, fun h => h.mem_imports hr⟩⟩
  rw [mem_imports_record_iff d hr]
  rintro (⟨himport, f, hf, hmark⟩ | ⟨f, hf, h⟩ | ⟨b, hb, h⟩)
  · exact .wireName hf hmark himport
  · exact needs_of_mem_typeImports hf h
  · obtain ⟨target, hforeign, rfl⟩ := classImport?_eq_some_iff.1 h
    exact .base hb hforeign

/-- `Heir` derives from `Base` of another package, which refers to a class of its own there. -/
def foreignCalls : List Call :=
  [.edit (.build (.object [("when", .string "x"), ("geo", .object [("lat", .bool true)])]) "q"
      "Base"),
    .edit (.build (.object [("tag-s", .array [.string "x"])]) "p" "Heir"),
    .edit (.setBase "Heir" "Base"), .edit (.renameType "string" ⟨"Date", false⟩)]

/-- The file of `Heir` imports for the fields of `Base`, too. -/
example : let g := (new ⟨"java.lang", "String", "java"⟩).runCalls foreignCalls
    ((g.find? "Heir").map fun c => (g.declare .java c).imports)
      = some ["com.google.gson.annotations.SerializedName", "java.util.Date", "java.util.List",
          "q.Base", "q.Geo"] := by
  decide +kernel

theorem imports_declare_exact_foreignCalls :
    let g := (new ⟨"java.lang", "String", "java"⟩).runCalls foreignCalls
    ∃ c, g.find? "Heir" = some c ∧ c.content.isEnumeration = false ∧
      (g.declare .java c).imports.Pairwise (· < ·) ∧
        ∀ text, text ∈ (g.declare .java c).imports ↔ g.Needs .java c text := by
  intro g
  have hnode : (g.find? "Heir").map (·.content.isEnumeration) = some false := by decide +kernel
  obtain ⟨c, hc, hr⟩ := Option.map_eq_some_iff.1 hnode
  exact ⟨c, hc, hr, imports_declare_exact g .java hr⟩

end ClassGraph

end ClassInference
