import ClassInference.Proofs.Sources.DeclaredKeys
import ClassInference.Proofs.Sources.Imports
import ClassInference.Proofs.Sources.Templates
import ClassInference.Proofs.TypeNames

/-!
# Spelled types

A type is spelled without a look at the other types of the graph: a primitive by a word of the
language, a class by its name. Two types come out alike where a class has the name of the string
type, or in lists that of another boxed primitive. A class with the name of the date type is taken
for the one of the library. No other name for a type that a key has gets into the way.
-/

namespace ClassInference

open Json (Value)

/-! ### Spellings -/

namespace Dialect

/-- The text of a type as the element of a list, or by itself. -/
def elementText (d : Dialect) (isArray : Bool) : TypeRef → String
  | .primitive p => d.primitive p isArray
  | .named n => n

theorem spellType_eq (d : Dialect) (t : TypeRef) (isArray : Bool) :
    d.spellType t isArray
      = if isArray then fill d.listType [("element", d.elementText isArray t)]
        else d.elementText isArray t := by
  cases t <;> rfl

theorem toList_fill_listType_java (element : String) :
    (fill java.listType [("element", element)]).toList
      = "List<".toList ++ element.toList ++ ['>'] :=
  Template.fill_of_slot (by decide) (by decide) (by decide) (by decide) (by decide)

/-- The list type wraps different elements into different texts. -/
theorem spellType_java_inj {t t' : TypeRef} {isArray : Bool} :
    java.spellType t isArray = java.spellType t' isArray ↔
      java.elementText isArray t = java.elementText isArray t' := by
  rw [spellType_eq, spellType_eq]
  cases isArray with
  | false => rfl
  | true =>
      constructor
      · intro h
        have hlist := congrArg String.toList h
        rw [if_pos rfl, if_pos rfl, toList_fill_listType_java, toList_fill_listType_java,
          List.append_left_inj, List.append_right_inj, String.toList_inj] at hlist
        exact hlist
      · intro h
        rw [h]

/-- No two primitives are spelled alike. -/
theorem primitive_java_injective (isArray : Bool) :
    Function.Injective (java.primitive · isArray) := by
  intro p q
  cases isArray <;> cases p <;> cases q <;> decide

/-- A primitive by itself is spelled in small letters, unless it is the string type. -/
theorem primitive_java_ne_typeName {p : Primitive} (hp : p ≠ .string) (key : String) :
    java.primitive p false ≠ Naming.typeName key := by
  cases p with
  | boolean | int | long | double =>
      exact (Naming.typeName_ne_of_head? rfl (by decide) key).symm
  | string => exact absurd rfl hp

end Dialect

/-! ### Imports -/

namespace ClassGraph

open Declaration

variable {g : ClassGraph} {package n : String} {c : ClassNode} {documents : List Value}

/-- Apart from the mark of wire names, a file without a base imports what its fields need. -/
theorem mem_imports_declare_iff (d : Dialect) (hc : g.find? c.name = some c)
    (hr : c.content.isEnumeration = false) (hbase : c.base = none) {text : String}
    (htext : d.wireNameImport ≠ some text) :
    text ∈ (g.declare d c).imports ↔ ∃ f ∈ c.fields, text ∈ typeImports g d c.package f := by
  have hnone : g.baseName? c.name = none := by simp [baseName?, hc, hbase]
  have hbaseOf : g.baseOf? c.name = none := by rw [baseOf?, hnone, Option.bind_none]
  have hparameter : ∀ f, g.TakesParameter c.name f ↔ f ∈ c.fields := by
    intro f
    rw [← mem_constructorFields_iff, constructorFields_of_baseName? hnone,
      declaredFields_of_base hc hbase]
  rw [mem_imports_record_iff d hr]
  simp [htext, hparameter, hbaseOf]

/-! ### Types of a graph of one package -/

/-- A type by name is the name for a key, and the graph has a class of it. -/
def NamesKeys (g : ClassGraph) : Prop :=
  g.RefersWithin fun n => n ∈ g.names ∧ ∃ key, n = Naming.typeName key

/-- The fields of all classes. -/
def allFields (g : ClassGraph) : List Field := g.nodes.flatMap (·.fields)

theorem mem_allFields_iff {f : Field} : f ∈ g.allFields ↔ ∃ c ∈ g.nodes, f ∈ c.fields :=
  List.mem_flatMap

theorem NamesKeys.of_mem (hg : g.NamesKeys) {f : Field} (hf : f ∈ g.allFields)
    (hn : f.typeRef = .named n) : n ∈ g.names ∧ ∃ key, n = Naming.typeName key := by
  obtain ⟨c, hc, hf⟩ := mem_allFields_iff.1 hf
  obtain ⟨name, hname⟩ := OrderedTable.mem_values_iff.1 hc
  obtain ⟨key, hkey⟩ := OrderedTable.mem_values_iff.1 hf
  exact hg hname hkey n hn

/-- Fields that are both lists, or both not, are spelled alike only if their types are one. -/
def SpellsApart (g : ClassGraph) (d : Dialect) : Prop :=
  ∀ f ∈ g.allFields, ∀ f' ∈ g.allFields, f.isArray = f'.isArray →
    d.spellType f.typeRef f.isArray = d.spellType f'.typeRef f'.isArray → f.typeRef = f'.typeRef

/-- No file imports the date type while a class of its name gets a file. -/
def ImportsDateApart (g : ClassGraph) (d : Dialect) : Prop :=
  ∀ c ∈ g.nodes, ∀ text ∈ d.dateImport, text ∈ (g.declare d c).imports →
    ∀ c' ∈ g.generatable, c'.name ≠ d.dateType

/-- No field refers to a class that is spelled like the primitive of another field. By themselves
these are the classes named like the string type, in lists those named like a boxed primitive. -/
structure NamesNoPrimitive (g : ClassGraph) : Prop where
  plain : ∀ f ∈ g.allFields, ∀ f' ∈ g.allFields, f.isArray = false → f'.isArray = false →
    f.typeRef = .primitive .string → f'.typeRef ≠ .named Dialect.java.stringType
  boxed : ∀ f ∈ g.allFields, ∀ f' ∈ g.allFields, f.isArray = true → f'.isArray = true →
    ∀ p, f.typeRef = .primitive p → f'.typeRef ≠ .named (Dialect.java.primitive p true)

/-- No field refers to a class that has the name of the date type. -/
def NamesNoDate (g : ClassGraph) : Prop :=
  ∀ f ∈ g.allFields, f.typeRef ≠ .named Dialect.java.dateType

theorem spellsApart_iff (hg : g.NamesKeys) : g.SpellsApart .java ↔ g.NamesNoPrimitive := by
  constructor
  · intro h
    constructor
    · intro f hf f' hf' hlist hlist' hp hn
      have htype := h f hf f' hf' (hlist.trans hlist'.symm) (by rw [hlist, hlist', hp, hn]; rfl)
      rw [hp, hn] at htype
      contradiction
    · intro f hf f' hf' hlist hlist' p hp hn
      have htype := h f hf f' hf' (hlist.trans hlist'.symm) (by rw [hlist, hlist', hp, hn]; rfl)
      rw [hp, hn] at htype
      contradiction
  · rintro ⟨hplain, hboxed⟩
    -- a primitive and a class of one spelling
    have hmixed : ∀ f ∈ g.allFields, ∀ f' ∈ g.allFields, f.isArray = f'.isArray →
        ∀ p n, f.typeRef = .primitive p → f'.typeRef = .named n →
          Dialect.java.primitive p f.isArray ≠ n := by
      rintro f hf f' hf' hlist p n hp hn rfl
      cases hfa : f.isArray with
      | true =>
          rw [hfa] at hn
          exact hboxed f hf f' hf' hfa (hlist ▸ hfa) p hp hn
      | false =>
          rw [hfa] at hn
          obtain ⟨-, key, hkey⟩ := hg.of_mem hf' hn
          have hstring : p = .string := by
            by_contra hne
            exact Dialect.primitive_java_ne_typeName hne key hkey
          subst hstring
          exact hplain f hf f' hf' hfa (hlist ▸ hfa) hp hn
    intro f hf f' hf' hlist hspelled
    rw [← hlist, Dialect.spellType_java_inj] at hspelled
    cases ht : f.typeRef with
    | primitive p =>
        cases ht' : f'.typeRef with
        | primitive q =>
            rw [ht, ht'] at hspelled
            exact congrArg _ (Dialect.primitive_java_injective f.isArray hspelled)
        | named n =>
            rw [ht, ht'] at hspelled
            exact absurd hspelled (hmixed f hf f' hf' hlist p n ht ht')
    | named n =>
        cases ht' : f'.typeRef with
        | primitive q =>
            rw [ht, ht', hlist] at hspelled
            exact absurd hspelled.symm (hmixed f' hf' f hf hlist.symm q n ht' ht)
        | named m =>
            rw [ht, ht'] at hspelled
            exact congrArg _ hspelled

/-! ### The date type -/

/-- A text that starts with a package and a dot and also with `java.` has the prefix of the reserved
packages in front of the dot. -/
theorem isPrefixOf_of_append_eq {package name rest : List Char}
    (h : package ++ '.' :: name = "java".toList ++ rest) :
    "java".toList.isPrefixOf package = true := by
  rcases package with _ | ⟨a, _ | ⟨b, _ | ⟨c, _ | ⟨d, package⟩⟩⟩⟩ <;> simp_all

theorem toList_fill_typeImport_java (package name : String) :
    (fill Dialect.java.typeImport [("namespace", package), ("name", name)]).toList
      = package.toList ++ '.' :: name.toList := by
  have hpieces : Template.pieces Dialect.java.typeImport.toList
      = [.slot "namespace".toList, .char '.', .slot "name".toList] := by decide +kernel
  rw [fill, String.toList_ofList, hpieces]
  simp [Template.Piece.fill, List.lookup_cons]

/-- No class of a package of one's own is imported under the name of the date type. -/
theorem WithinPackage.classImport?_ne_dateImport (hg : g.WithinPackage package)
    (hreserve : g.builtins.reservedPrefix = Dialect.java.reservedPrefix)
    (hpackage : g.isReserved package = false) (own : String) :
    classImport? g .java own n ≠ Dialect.java.dateImport := by
  intro h
  obtain ⟨c, hc, himport⟩ := Option.bind_eq_some_iff.1 h
  split at himport
  · simp at himport
  · rename_i hfree
    rw [not_or, not_or] at hfree
    have hn : n ≠ g.builtins.stringType := by
      rintro rfl
      have hbuiltin := hg.builtin
      rw [KeepsStringType, isBuiltin, hc] at hbuiltin
      exact hfree.2.2 hbuiltin
    have htext := congrArg String.toList (Option.some.inj himport)
    rw [hg.package hc hn, toList_fill_typeImport_java] at htext
    have hreserved : "java".toList.isPrefixOf package.toList = true :=
      isPrefixOf_of_append_eq (htext : _ = "java".toList ++ ".util.Date".toList)
    have hstarts : g.isReserved package = true := by
      rw [isReserved, hreserve]
      exact hreserved
    rw [hpackage] at hstarts
    contradiction

theorem WithinPackage.dateImport_mem_imports_iff (hg : g.WithinPackage package)
    (hreserve : g.builtins.reservedPrefix = Dialect.java.reservedPrefix)
    (hpackage : g.isReserved package = false) (hc : g.find? c.name = some c) :
    "java.util.Date" ∈ (g.declare .java c).imports ↔
      ∃ f ∈ c.fields, f.typeRef = .named Dialect.java.dateType := by
  rw [mem_imports_declare_iff .java hc (hg.plain.recordsOnly hc) (hg.plain hc).base (by decide)]
  refine exists_congr fun f => and_congr_right fun _ => ?_
  rw [typeImports, List.mem_append]
  have hlist : "java.util.Date" ∉ if f.isArray then Dialect.java.listImport.toList else [] := by
    cases f.isArray <;> decide
  rw [or_iff_right hlist]
  cases f.typeRef with
  | primitive p => simp
  | named n =>
      dsimp only
      split
      · rename_i hn
        subst hn
        exact iff_of_true (by decide) rfl
      · rename_i hn
        have hclass := hg.classImport?_ne_dateImport hreserve hpackage (n := n) c.package
        apply iff_of_false
        · rw [Option.mem_toList]
          exact hclass
        · rwa [TypeRef.named.injEq]

theorem WithinPackage.importsDateApart_iff (hg : g.WithinPackage package) (hkeys : g.NamesKeys)
    (hbuiltins : g.builtins = Dialect.java.builtins) (hpackage : g.isReserved package = false) :
    g.ImportsDateApart .java ↔ g.NamesNoDate := by
  have himport : ∀ c ∈ g.nodes, ("java.util.Date" ∈ (g.declare .java c).imports ↔
      ∃ f ∈ c.fields, f.typeRef = .named Dialect.java.dateType) := by
    intro c hc
    obtain ⟨name, hname⟩ := OrderedTable.mem_values_iff.1 hc
    have hfind : g.find? c.name = some c := (hg.plain hname).named.symm ▸ hname
    exact hg.dateImport_mem_imports_iff (by rw [hbuiltins]; rfl) hpackage hfind
  constructor
  · intro h f hf hdate
    -- the type is a class of the graph, and the class gets a file
    obtain ⟨hmem, -⟩ := hkeys.of_mem hf hdate
    obtain ⟨c', hc'⟩ := exists_find?_of_mem_names hmem
    have hgenerate : c'.generate = true := by
      rw [hg.generate_iff hpackage hc', hbuiltins]
      decide
    have hfile : c' ∈ g.generatable :=
      List.mem_filter.2 ⟨OrderedTable.mem_values_iff.2 ⟨_, hc'⟩, hgenerate⟩
    obtain ⟨c, hc, hf⟩ := mem_allFields_iff.1 hf
    exact h c hc _ rfl ((himport c hc).2 ⟨f, hf, hdate⟩) c' hfile (hg.plain hc').named
  · intro h c hc text htext hmem c' _
    obtain rfl : "java.util.Date" = text := Option.some.inj htext
    obtain ⟨f, hf, hdate⟩ := (himport c hc).1 hmem
    exact absurd hdate (h f (mem_allFields_iff.2 ⟨c, hc, hf⟩))

end ClassGraph

namespace Generator

open ClassGraph

variable {package root : String} {preparations : List Preparation}
  (hrules : ((new package root .java).prepareAll preparations).rules = ∅)
  (henums : preparations.filterMap Preparation.enumeration? = [])

include hrules henums

theorem namesKeys_finish (documents : List Value) :
    (((new package root .java).prepareAll preparations).observeAll documents).finish.2.NamesKeys
    := by
  have hnew := (withEnumerations_spec (isReserved_preset (.inl rfl)) []).1
  have halike := alike_finish_of_rules_empty hrules henums documents
  rw [runCalls_samplesOf] at halike
  have hbuilt := (refersWithin_buildAll hnew package root documents).of_alike halike
  exact hbuilt.mono fun n h => ⟨halike.mem_names_iff.1 h.1, h.2⟩

/-- Whatever is observed under a package of one's own: no two types are spelled alike and no class
is taken for the date type exactly if no field refers to a class that has the name of the string
type, of a boxed primitive or of the date type where the files use these. -/
theorem spells_apart_iff
    (hpackage : (ClassGraph.new Dialect.java.builtins).isReserved package = false)
    (documents : List Value) :
    let graph := (((new package root .java).prepareAll preparations).observeAll documents).finish.2
    graph.SpellsApart .java ∧ graph.ImportsDateApart .java ↔
      graph.NamesNoPrimitive ∧ graph.NamesNoDate := by
  intro graph
  have hkeys : graph.NamesKeys := namesKeys_finish hrules henums documents
  have hwithin : graph.WithinPackage package :=
    withinPackage_finish hrules henums (.inl rfl) documents
  have hfree : graph.isReserved package = false :=
    (isReserved_finish hrules henums documents).trans hpackage
  have hbuiltins : graph.builtins = Dialect.java.builtins :=
    builtins_finish hrules henums documents
  exact and_congr (spellsApart_iff hkeys) (hwithin.importsDateApart_iff hkeys hbuiltins hfree)

end Generator

/-- A list of truth values beside a list of objects under the key `boolean`, and an object under the
key `date`. -/
def namesakeDocument : Value :=
  .object [("ids", .array [.bool true]), ("boolean", .array [.object [("a", .null)]]),
    ("date", .object [])]

namespace Generator

open ClassGraph

theorem spells_apart_namesakeDocument :
    let preparations : List Preparation := [.layout ⟨"\t", 80⟩, .fileHeader (some "h")]
    let graph := (((new "p" "R" .java).prepareAll preparations).observeAll
      [namesakeDocument]).finish.2
    ((new "p" "R" .java).prepareAll preparations).rules = ∅ ∧
      preparations.filterMap Preparation.enumeration? = [] ∧
      (ClassGraph.new Dialect.java.builtins).isReserved "p" = false ∧
      (graph.SpellsApart .java ∧ graph.ImportsDateApart .java ↔
        graph.NamesNoPrimitive ∧ graph.NamesNoDate) := by
  intro preparations graph
  have hpackage : (ClassGraph.new Dialect.java.builtins).isReserved "p" = false := by
    decide +kernel
  exact ⟨rfl, rfl, hpackage, spells_apart_iff rfl rfl hpackage [namesakeDocument]⟩

/-- A list of the class `Boolean` is spelled like a list of truth values, and the date type is
imported beside the class `Date`. -/
theorem not_spells_apart_namesakeDocument :
    let graph := ((new "p" "R" .java).observeAll [namesakeDocument]).finish.2
    (ClassGraph.new Dialect.java.builtins).isReserved "p" = false ∧
      ¬ graph.SpellsApart .java ∧ ¬ graph.ImportsDateApart .java := by
  unfold SpellsApart ImportsDateApart
  decide +kernel

end Generator

end ClassInference
