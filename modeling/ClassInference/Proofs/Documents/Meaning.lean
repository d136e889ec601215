import ClassInference.Proofs.Documents.Described
import ClassInference.Proofs.Documents.SightedValues
import ClassInference.Proofs.Fields.Keyed

/-!
# What a built graph means

A graph built from documents alone has a node for every class that owns an object, and for the
string type. The wire names of a class are the keys of its objects, and each field describes the
values under its key in all of them.
-/

namespace ClassInference

open Json (Value)

/-- The call that builds from the document. -/
def Sample.call (s : Sample) : Call := .edit (.build s.document s.package s.root)

theorem ClassNode.field?_observe {c : ClassNode} {key : String}
    (hc : c.content.isEnumeration = false) (k : String) (v : Value) (nested : String) :
    (c.observe k v nested).field? key
      = if key = k then some (((c.field? key).getD (.new key)).observe v nested)
        else c.field? key := by
  unfold ClassNode.observe ClassNode.mapContent ClassNode.field?
  cases hcontent : c.content with
  | enumeration constants => simp [hcontent, Content.isEnumeration] at hc
  | record fields =>
      simp only [Content.mapFields, Content.fields, OrderedTable.get?_modify,
        OrderedTable.get?_ensure]
      by_cases hk : key = k <;> simp [hk]

namespace ClassGraph

open Sighting

variable {g : ClassGraph} {package n key : String}

/-- The field under a key of a class. -/
def fieldAt (g : ClassGraph) (n key : String) : Option Field := (g.find? n).bind (·.field? key)

/-- A field that may not be there yet takes note of values. -/
def noteAll (key : String) (f? : Option Field) (vs : List Value) : Option Field :=
  vs.foldl (fun f? v => some ((f?.getD (.new key)).observe v (Naming.typeName key))) f?

theorem noteAll_append (key : String) (f? : Option Field) (vs ws : List Value) :
    noteAll key f? (vs ++ ws) = noteAll key (noteAll key f? vs) ws :=
  List.foldl_append

theorem noteAll_eq (key : String) (f? : Option Field) (vs : List Value) :
    noteAll key f? vs
      = if vs = [] then f?
        else some ((f?.getD (.new key)).observeAll vs (Naming.typeName key)) := by
  induction vs generalizing f? with
  | nil => rfl
  | cons v vs ih =>
      change noteAll key (some _) vs = _
      rw [ih, if_neg (List.cons_ne_nil v vs)]
      split
      · rename_i h
        rw [h]
        rfl
      · rfl

/-! ### One sighting -/

theorem fieldAt_ensure (g : ClassGraph) (package name n key : String) :
    (g.ensure package name).fieldAt n key = g.fieldAt n key := by
  unfold fieldAt
  rw [find?_ensure]
  by_cases hn : n = name
  · subst hn
    cases g.find? n <;> simp [ClassNode.new, ClassNode.field?, Content.fields]
  · simp [hn]

theorem fieldAt_see (hg : g.RecordsOnly) (package : String) (s : Sighting) (n key : String) :
    (g.see package s).fieldAt n key
      = noteAll key (g.fieldAt n key) (s.member?.toList.flatMap (shown n key s.className)) := by
  obtain ⟨className, member?⟩ := s
  cases member? with
  | none => exact fieldAt_ensure g package className n key
  | some m =>
      obtain ⟨k, v⟩ := m
      have hmem : className ∈ (g.ensure package className).names := mem_names_ensure.2 (.inl rfl)
      obtain ⟨c, hc⟩ := exists_find?_of_mem_names hmem
      have hrecord : c.content.isEnumeration = false := hg.ensure package className hc
      rw [← fieldAt_ensure g package className n key]
      change ((g.ensure package className).modify className _).fieldAt n key = _
      unfold fieldAt
      rw [find?_modify]
      by_cases hn : n = className
      · subst hn
        by_cases hk : key = k
        · subst hk
          simp [hc, ClassNode.field?_observe hrecord, noteAll, shown]
        · simp [hc, ClassNode.field?_observe hrecord, noteAll, shown, hk, Ne.symm hk]
      · simp [hn, Ne.symm hn, noteAll, shown]

theorem fieldAt_seeAll (hg : g.RecordsOnly) (package : String) (sightings : List Sighting)
    (n key : String) :
    (g.seeAll package sightings).fieldAt n key
      = noteAll key (g.fieldAt n key) (valuesSeen n key sightings) := by
  induction sightings generalizing g with
  | nil => rfl
  | cons s rest ih =>
      rw [seeAll_cons, ih (hg.see package s), fieldAt_see hg, ← noteAll_append]
      rfl

/-! ### Runs of builds -/

theorem fieldAt_runCalls (hg : g.RecordsOnly) (samples : List Sample) (n key : String) :
    (g.runCalls (samples.map Sample.call)).fieldAt n key
      = noteAll key (g.fieldAt n key) (valuesSeenIn samples n key) := by
  induction samples generalizing g with
  | nil => rfl
  | cons s rest ih =>
      have hs : (g.seeAll s.package (ofValue s.root s.document)).RecordsOnly := hg.seeAll _ _
      change ((g.build s.document s.package s.root).runCalls _).fieldAt n key = _
      rw [build_eq_seeAll hg, ih hs, fieldAt_seeAll hg, ← noteAll_append]
      rfl

theorem mem_names_runCalls_iff (hg : g.RecordsOnly) (samples : List Sample) (n : String) :
    n ∈ (g.runCalls (samples.map Sample.call)).names ↔
      (∃ s ∈ samples, ∃ t ∈ ofValue s.root s.document, n = t.className) ∨ n ∈ g.names := by
  induction samples generalizing g with
  | nil => simp [runCalls]
  | cons s rest ih =>
      have hs : (g.seeAll s.package (ofValue s.root s.document)).RecordsOnly := hg.seeAll _ _
      change n ∈ ((g.build s.document s.package s.root).runCalls _).names ↔ _
      rw [build_eq_seeAll hg, ih hs, mem_names_seeAll]
      simp only [List.mem_cons, exists_eq_or_imp, or_assoc]
      exact or_left_comm

theorem mem_names_new_iff (builtins : Builtins) (n : String) :
    n ∈ (new builtins).names ↔ n = builtins.stringType := by
  change n ∈ (ensure _ _ _).names ↔ _
  rw [mem_names_ensure]
  simp [names]

theorem fieldAt_new (builtins : Builtins) (n key : String) :
    (new builtins).fieldAt n key = none := by
  change (ensure _ _ _).fieldAt n key = none
  rw [fieldAt_ensure]
  rfl

/-- A field built from documents has taken note of what they show under its key. -/
theorem fieldAt_documents (builtins : Builtins) (samples : List Sample) (n key : String) :
    ((new builtins).runCalls (samples.map Sample.call)).fieldAt n key
      = if valuesSeenIn samples n key = [] then none
        else some ((Field.new key).observeAll (valuesSeenIn samples n key)
          (Naming.typeName key)) := by
  rw [fieldAt_runCalls (recordsOnly_new builtins), fieldAt_new, noteAll_eq, Option.getD_none]

/-! ### The whole graph -/

/-- The graph says of the documents what there is to say: which classes own objects, what the keys
of these are, and what the values under each key are. -/
structure Means (g : ClassGraph) (stringType : String) (samples : List Sample) : Prop where
  mem_names_iff (n : String) : n ∈ g.names ↔ n = stringType ∨ ∃ o, Belongs samples n o
  mem_wireNames_iff {n : String} {c : ClassNode} (hc : g.find? n = some c) (key : String) :
    key ∈ c.fields.map (·.wireName) ↔ ∃ o, Belongs samples n o ∧ key ∈ o.map Prod.fst
  describes {n key : String} {c : ClassNode} {f : Field} (hc : g.find? n = some c)
    (hf : c.field? key = some f) : f.Describes key (valuesOf samples n key)

/-- The meaning of building: a new graph filled from documents, whichever they are and whatever
their root classes, means them. -/
theorem means_documents (builtins : Builtins) (samples : List Sample) :
    ((new builtins).runCalls (samples.map Sample.call)).Means builtins.stringType samples := by
  constructor
  · intro n
    rw [mem_names_runCalls_iff (recordsOnly_new builtins), exists_sighting_iff, mem_names_new_iff,
      or_comm]
  · intro n c hc key
    have hkeyed := fieldsKeyed_runCalls builtins (samples.map Sample.call) hc
    have hat := fieldAt_documents builtins samples n key
    rw [fieldAt, hc, Option.bind_some, ClassNode.field?] at hat
    rw [ClassNode.fields, hkeyed.map_wireName_values, ← OrderedTable.get?_isSome_iff, hat,
      ← not_iff_not, ← valuesSeenIn_eq_nil_iff]
    split <;> simp_all
  · intro n key c f hc hf
    have hat := fieldAt_documents builtins samples n key
    rw [fieldAt, hc, Option.bind_some, hf] at hat
    split at hat
    · simp at hat
    · rw [Option.some.inj hat]
      exact (Field.describes_observeAll_new key _).perm (valuesSeenIn_perm_valuesOf samples n key)

/-- A class nested in itself: the inner object is looked into before the outer one is done with. -/
example : (((new ⟨"java.lang", "String", "java"⟩).runCalls [Sample.call
    ⟨.object [("a", .object [("b", .bool true)]), ("b", .string "x")], "p", "A"⟩]).fieldAt
    "A" "b").map (·.observed) = some [.bool true, .text "x"] := by
  decide +kernel

end ClassGraph

end ClassInference
