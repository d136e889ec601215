import ClassInference.Proofs.Documents.Absorbed
import ClassInference.Proofs.Fields.Parameters
import ClassInference.Proofs.References.Rules

/-!
# Declared keys

Every object of the documents belongs to a class, and every key of it is a field of that class. The
field is declared in a file if the class gets one. Of the classes that documents name all do but
one: the string type of the language, which is there from the start and gets no file, so that an
object under a key of that name leaves no trace in the files.
-/

namespace ClassInference

open Json (Value)

namespace ClassGraph

variable {g : ClassGraph} {package root n key : String} {c : ClassNode} {documents : List Value}

/-! ### Graphs of one package -/

/-- Every class but the string type lies in the package, and the string type is built in. -/
structure WithinPackage (g : ClassGraph) (package : String) : Prop where
  plain : g.Plain
  builtin : g.KeepsStringType
  package : g.Every fun name c => name ≠ g.builtins.stringType → c.package = package

theorem Plain.fieldsKeyed (hg : g.Plain) : g.FieldsKeyed := by
  intro n c hc
  obtain ⟨fields, hfields, hkeyed⟩ := (hg hc).record
  rwa [hfields]

theorem WithinPackage.ensure (hg : g.WithinPackage package) (name : String) :
    (g.ensure package name).WithinPackage package where
  plain := hg.plain.ensure package name
  builtin := hg.builtin.ensure package name
  package := by
    rw [builtins_ensure]
    exact hg.package.ensure fun _ => rfl

theorem WithinPackage.observe (hg : g.WithinPackage package) (name key : String) (v : Value)
    (nested : String) : (g.modify name (·.observe key v nested)).WithinPackage package where
  plain := hg.plain.observe name key v nested
  builtin := hg.builtin.modify name fun _ => rfl
  package := by
    apply hg.package.modify
    exact fun _ _ hc => hc

theorem withinPackage_new {builtins : Builtins}
    (hreserved : (ClassGraph.new builtins).isReserved builtins.package = true)
    (package : String) : (new builtins).WithinPackage package where
  plain := plain_new builtins
  builtin := keepsStringType_new hreserved
  package := by
    have hbuiltins : (new builtins).builtins = builtins := builtins_ensure _ _ _
    rw [hbuiltins]
    exact every_new fun _ h => absurd rfl h

theorem WithinPackage.buildAll (hg : g.WithinPackage package) (root : String)
    (documents : List Value) : (g.buildAll package root documents).WithinPackage package := by
  refine List.foldlRecOn (motive := (WithinPackage · package)) _ _ hg fun k hk document _ => ?_
  apply buildValue_induction (motive := (WithinPackage · package)) _ _ hk
  · exact fun _ name h => h.ensure name
  · exact fun _ name key v h => h.observe name key v _

theorem WithinPackage.of_alike {g' : ClassGraph} (hg : g.WithinPackage package)
    (h : g.Alike g') : g'.WithinPackage package where
  plain := by
    intro n c' hc'
    obtain ⟨c, hc, hcc⟩ := h.symm.exists_find? hc'
    obtain ⟨hn, ⟨fields, hfields, hkeyed⟩, hbase, hgenerate⟩ := hg.plain hc
    have hrecord : c'.content.isEnumeration = false := by
      rw [hcc.symm.content.isEnumeration, hfields]
      rfl
    obtain ⟨fields', hfields'⟩ := Content.exists_record hrecord
    have hkeyed' : c'.content.fields.Keyed := by
      apply Content.keyed_of_alike _ hcc.symm.content.fields
      rwa [hfields]
    rw [hfields'] at hkeyed'
    refine ⟨hcc.symm.name.trans hn, ⟨fields', hfields', hkeyed'⟩, hcc.symm.base.trans hbase, ?_⟩
    rw [hcc.symm.generate, hcc.symm.package, hgenerate, h.isReserved]
  builtin := by
    rw [KeepsStringType, h.builtins, h.isBuiltin]
    exact hg.builtin
  package := by
    intro n c' hc' hn
    obtain ⟨c, hc, hcc⟩ := h.symm.exists_find? hc'
    rw [h.builtins] at hn
    exact hcc.symm.package.trans (hg.package hc hn)

/-- Of such a graph all classes get a file but the string type, unless the package is reserved. -/
theorem WithinPackage.generate_iff (hg : g.WithinPackage package)
    (hpackage : g.isReserved package = false) (hc : g.find? n = some c) :
    c.generate = true ↔ n ≠ g.builtins.stringType := by
  rw [(hg.plain hc).generate]
  by_cases hn : n = g.builtins.stringType
  · have hbuiltin : g.isReserved c.package = true := by
      have h := hg.builtin
      rw [KeepsStringType, isBuiltin, ← hn, hc] at h
      exact h
    simp [hbuiltin, hn]
  · simp [hg.package hc hn, hpackage, hn]

/-! ### Fields without bases -/

/-- A class without a base declares its own fields. -/
theorem declaredFields_of_base (hc : g.find? n = some c) (hbase : c.base = none) :
    g.declaredFields n = c.fields := by
  have hinherits : ∀ wireName, g.inherits n wireName = false := by
    intro wireName
    simp [inherits, baseName?, hc, hbase]
  simp [declaredFields, ownFields, hc, hinherits]

theorem wireNames_fields_declare (d : Dialect) (hc : g.find? c.name = some c)
    (hr : c.content.isEnumeration = false) (hbase : c.base = none) :
    (g.declare d c).kind.fields.map (·.wireName) = c.fields.map (·.wireName) := by
  have hnone : g.baseName? c.name = none := by simp [baseName?, hc, hbase]
  have hsplit : g.constructorFields c.name = [] ++ g.declaredFields c.name :=
    constructorFields_of_baseName? hnone
  rw [fields_declare d hr hsplit, addedMembers, Declaration.map_wireName_uniqueMembers,
    declaredFields_of_base hc hbase]

/-- A class has a field under a key exactly if the key is among the wire names of its fields. -/
theorem FieldsKeyed.isSome_fieldAt_iff (hg : g.FieldsKeyed) (hc : g.find? n = some c) :
    (g.fieldAt n key).isSome = true ↔ key ∈ c.fields.map (·.wireName) := by
  rw [fieldAt, hc, ClassNode.fields, (hg hc).map_wireName_values]
  exact OrderedTable.get?_isSome_iff

/-- Documents show a field under a key of a class exactly if an object of the class has the key. -/
theorem isSome_fieldAt_documents_iff (builtins : Builtins) (samples : List Sample) :
    (((new builtins).runCalls (samples.map Sample.call)).fieldAt n key).isSome = true ↔
      ∃ o, Belongs samples n o ∧ key ∈ o.map Prod.fst := by
  rw [fieldAt_documents, ← not_iff_not, ← valuesSeenIn_eq_nil_iff]
  split <;> simp_all

end ClassGraph

namespace Generator

open ClassGraph

variable {g : Generator} {package root n key : String} {documents : List Value}

/-- One of the files that the generator hands out is that of a class of the name, and the class
declares a field for the key. -/
def Declares (g : Generator) (n key : String) : Prop :=
  ∃ c ∈ g.finish.2.generatable, c.name = n ∧ g.sourceFile g.finish.2 c ∈ g.generate.2 ∧
    key ∈ (g.finish.2.declare g.dialect c).kind.fields.map (·.wireName)

theorem declares_iff (hg : g.finish.2.WithinPackage package)
    (hpackage : g.finish.2.isReserved package = false) :
    g.Declares n key ↔
      n ≠ g.finish.2.builtins.stringType ∧ (g.finish.2.fieldAt n key).isSome = true := by
  have hplan : ∀ c, g.finish.2.find? n = some c →
      (key ∈ (g.finish.2.declare g.dialect c).kind.fields.map (·.wireName) ↔
        (g.finish.2.fieldAt n key).isSome = true) := by
    intro c hc
    obtain ⟨hn, -, hbase, -⟩ := hg.plain hc
    rw [wireNames_fields_declare g.dialect (hn.symm ▸ hc) (hg.plain.recordsOnly hc) hbase,
      hg.plain.fieldsKeyed.isSome_fieldAt_iff hc]
  constructor
  · rintro ⟨c, hc, rfl, -, hkey⟩
    obtain ⟨hmem, hgenerate⟩ := List.mem_filter.1 hc
    obtain ⟨name, hname⟩ := OrderedTable.mem_values_iff.1 hmem
    have hfind : g.finish.2.find? c.name = some c := (hg.plain hname).named.symm ▸ hname
    exact ⟨(hg.generate_iff hpackage hfind).1 hgenerate, (hplan c hfind).1 hkey⟩
  · rintro ⟨hn, hfield⟩
    obtain ⟨c, hc⟩ : ∃ c, g.finish.2.find? n = some c := by
      obtain ⟨f, hf⟩ := Option.isSome_iff_exists.1 hfield
      obtain ⟨c, hc, -⟩ := Option.bind_eq_some_iff.1 hf
      exact ⟨c, hc⟩
    have hmem : c ∈ g.finish.2.generatable :=
      List.mem_filter.2 ⟨OrderedTable.mem_values_iff.2 ⟨n, hc⟩, (hg.generate_iff hpackage hc).2 hn⟩
    exact ⟨c, hmem, (hg.plain hc).named, List.mem_map_of_mem hmem, (hplan c hc).2 hfield⟩

/-! ### Prepared generators without rules and enumerations -/

/-- The documents with the package and the root class that they are modelled under. -/
def samplesOf (package root : String) (documents : List Value) : List Sample :=
  documents.map fun document => ⟨document, package, root⟩

theorem runCalls_samplesOf (g : ClassGraph) (package root : String) (documents : List Value) :
    g.runCalls ((samplesOf package root documents).map Sample.call)
      = g.buildAll package root documents := by
  rw [samplesOf, List.map_map, ClassGraph.runCalls, List.foldl_map]
  rfl

section Prepared

variable {dialect : Dialect} {preparations : List Preparation}
  (hrules : ((new package root dialect).prepareAll preparations).rules = ∅)
  (henums : preparations.filterMap Preparation.enumeration? = [])

include hrules henums

/-- Without rules the finished graph is the one built from the documents. -/
theorem alike_finish_of_rules_empty (documents : List Value) :
    ((ClassGraph.new dialect.builtins).runCalls
        ((samplesOf package root documents).map Sample.call)).Alike
      (((new package root dialect).prepareAll preparations).observeAll documents).finish.2 := by
  have hprepared := (prepared_new package root dialect).prepareAll preparations
  have hfinish := hprepared.finish documents
  rw [henums, hrules] at hfinish
  rw [runCalls_samplesOf]
  exact hfinish

theorem builtins_finish (documents : List Value) :
    (((new package root dialect).prepareAll preparations).observeAll documents).finish.2.builtins
      = dialect.builtins := by
  rw [(alike_finish_of_rules_empty hrules henums documents).builtins,
    ((plain_new dialect.builtins).runCalls (samplesOf package root documents)).2]
  exact builtins_ensure _ _ _

theorem withinPackage_finish (hd : dialect = .java ∨ dialect = .csharp) (documents : List Value) :
    WithinPackage
      (((new package root dialect).prepareAll preparations).observeAll documents).finish.2
      package := by
  refine WithinPackage.of_alike ?_ (alike_finish_of_rules_empty hrules henums documents)
  rw [runCalls_samplesOf]
  exact (withinPackage_new (isReserved_preset hd) package).buildAll root documents

theorem isReserved_finish (documents : List Value) :
    (((new package root dialect).prepareAll preparations).observeAll documents).finish.2.isReserved
      package = (ClassGraph.new dialect.builtins).isReserved package := by
  rw [isReserved, builtins_finish hrules henums, isReserved, ClassGraph.new, builtins_ensure]

/-- A key of a class is declared exactly if an object of the class has it and the class is not the
string type. -/
theorem declares_iff_belongs (hd : dialect = .java ∨ dialect = .csharp)
    (hpackage : (ClassGraph.new dialect.builtins).isReserved package = false)
    (documents : List Value) :
    (((new package root dialect).prepareAll preparations).observeAll documents).Declares n key ↔
      n ≠ dialect.stringType ∧
        ∃ o, Belongs (samplesOf package root documents) n o ∧ key ∈ o.map Prod.fst := by
  have halike := alike_finish_of_rules_empty hrules henums documents
  have hfield := (halike.field? n key).isSome_eq
  rw [← isSome_fieldAt_documents_iff dialect.builtins, fieldAt, hfield,
    declares_iff (withinPackage_finish hrules henums hd documents)
      ((isReserved_finish hrules henums documents).trans hpackage),
    builtins_finish hrules henums]
  rfl

/-- All keys of all objects are declared in the files of their classes, whatever is observed under a
package of one's own, exactly if no object of the string type has a key. -/
theorem declares_all_iff (hd : dialect = .java ∨ dialect = .csharp)
    (hpackage : (ClassGraph.new dialect.builtins).isReserved package = false)
    (documents : List Value) :
    (∀ n o key, Belongs (samplesOf package root documents) n o → key ∈ o.map Prod.fst →
        (((new package root dialect).prepareAll preparations).observeAll documents).Declares n key)
      ↔ ∀ o, Belongs (samplesOf package root documents) dialect.stringType o → o = [] := by
  constructor
  · intro h o ho
    rw [← List.map_eq_nil_iff (f := Prod.fst), List.eq_nil_iff_forall_not_mem]
    intro key hkey
    have hdeclared := h _ o key ho hkey
    rw [declares_iff_belongs hrules henums hd hpackage] at hdeclared
    exact hdeclared.1 rfl
  · intro h n o key ho hkey
    rw [declares_iff_belongs hrules henums hd hpackage]
    refine ⟨?_, o, ho, hkey⟩
    rintro rfl
    simp [h o ho] at hkey

end Prepared

/-- Objects in an array under one key, and an object without keys under the name of the string
type. -/
def scatteredDocument : Value :=
  .object [("rows", .array [.object [("a", .bool true)], .array [.object [("b", .null)]]]),
    ("string", .object [])]

theorem declares_all_scatteredDocument :
    let preparations : List Preparation := [.layout ⟨"\t", 80⟩, .fileHeader (some "h")]
    ((new "p" "R" .java).prepareAll preparations).rules = ∅ ∧
      preparations.filterMap Preparation.enumeration? = [] ∧
      (Dialect.java = .java ∨ Dialect.java = .csharp) ∧
      (ClassGraph.new Dialect.java.builtins).isReserved "p" = false ∧
      ((∀ n o key, Belongs (samplesOf "p" "R" [scatteredDocument]) n o → key ∈ o.map Prod.fst →
          (((new "p" "R" .java).prepareAll preparations).observeAll
            [scatteredDocument]).Declares n key)
        ↔ ∀ o, Belongs (samplesOf "p" "R" [scatteredDocument]) Dialect.java.stringType o → o = [])
    := by
  intro preparations
  have hpackage : (ClassGraph.new Dialect.java.builtins).isReserved "p" = false := by
    decide +kernel
  exact ⟨rfl, rfl, .inl rfl, hpackage,
    declares_all_iff rfl rfl (.inl rfl) hpackage [scatteredDocument]⟩

/-- An object with a key under the key `string`. -/
def stringDocument : Value := .object [("string", .object [("a", .bool true)])]

/-- An object under the key `string` is one of the string type, so that its keys are not declared.
-/
theorem not_declares_stringDocument :
    (ClassGraph.new Dialect.java.builtins).isReserved "p" = false ∧
      "R" ≠ Dialect.java.stringType ∧
      Belongs (samplesOf "p" "R" [stringDocument]) (Naming.typeName "string") [("a", .bool true)] ∧
      ¬ ((new "p" "R" .java).observeAll [stringDocument]).Declares (Naming.typeName "string") "a"
    := by
  have hpackage : (ClassGraph.new Dialect.java.builtins).isReserved "p" = false := by
    decide +kernel
  have hname : Naming.typeName "string" = Dialect.java.stringType := by decide +kernel
  have hroot : Belongs (samplesOf "p" "R" [stringDocument]) "R"
      [("string", .object [("a", .bool true)])] :=
    .root (s := ⟨stringDocument, "p", "R"⟩) List.mem_cons_self (.self _)
  refine ⟨hpackage, by decide, .member hroot List.mem_cons_self (.self _), ?_⟩
  intro h
  have hrules : ((new "p" "R" .java).prepareAll []).rules = ∅ := rfl
  have hdeclared := (declares_iff_belongs hrules rfl (.inl rfl) hpackage [stringDocument]).1 h
  exact hdeclared.1 hname

end Generator

end ClassInference
