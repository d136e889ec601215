import ClassInference.Proofs.Order.Descriptions

/-!
# Generators and the order of documents

Before its first document a generator is prepared: rules, layout, header and comment are set and
enumerations are declared. Two generators that were prepared with the same rules and the same
enumerations and have seen the same documents, each in an order of its own, finish with the same
schema.
-/

namespace ClassInference

open Json (Value)

/-- An enumeration as it is declared. -/
structure Enumeration where
  package : String
  name : String
  constants : List EnumConstant
deriving Repr, DecidableEq

/-- What a generator is told before its first document. -/
inductive Preparation where
  | layout (layout : Layout)
  | rules (rules : RuleSet)
  | fileHeader (header : Option String)
  | classComment (comment : Option String)
  | enumeration (e : Enumeration)

def Preparation.enumeration? : Preparation → Option Enumeration
  | enumeration e => some e
  | _ => none

namespace Generator

def prepare (g : Generator) : Preparation → Generator
  | .layout layout => g.withLayout layout
  | .rules rules => g.withRules rules
  | .fileHeader header => g.withFileHeader header
  | .classComment comment => g.withClassComment comment
  | .enumeration e => g.edit (·.declareEnum e.package e.name e.constants)

/-- The generator after preparations, one after the other. -/
def prepareAll (g : Generator) (preparations : List Preparation) : Generator :=
  preparations.foldl prepare g

def observeAll (g : Generator) (documents : List Value) : Generator := documents.foldl observe g

end Generator

def Dialect.builtins (d : Dialect) : Builtins := ⟨d.builtinPackage, d.stringType, d.reservedPrefix⟩

namespace ClassGraph

/-- A new graph with enumerations. -/
def withEnumerations (builtins : Builtins) (es : List Enumeration) : ClassGraph :=
  (new builtins).runCalls (es.map fun e => .edit (.declareEnum e.package e.name e.constants))

theorem withEnumerations_concat (builtins : Builtins) (es : List Enumeration) (e : Enumeration) :
    withEnumerations builtins (es ++ [e])
      = (withEnumerations builtins es).declareEnum e.package e.name e.constants := by
  simp [withEnumerations, runCalls, call, edit]

theorem fieldsKeyed_withEnumerations (builtins : Builtins) (es : List Enumeration) :
    (withEnumerations builtins es).FieldsKeyed :=
  fieldsKeyed_runCalls _ _

end ClassGraph

namespace Generator

variable {g g' : Generator} {es : List Enumeration} {documents documents' : List Value}

/-- The generator has been prepared with the enumerations, and has neither seen a document nor kept
a finished graph. -/
structure Prepared (g : Generator) (package rootClass : String) (dialect : Dialect)
    (es : List Enumeration) : Prop where
  package : g.package = package
  rootClass : g.rootClass = rootClass
  observed : (ClassGraph.withEnumerations dialect.builtins es).Alike g.observed
  finished : g.finished = none

variable {package rootClass : String} {dialect : Dialect}

theorem prepared_new (package rootClass : String) (dialect : Dialect) :
    (new package rootClass dialect).Prepared package rootClass dialect [] :=
  ⟨rfl, rfl, .refl _, rfl⟩

theorem Prepared.prepare (h : g.Prepared package rootClass dialect es) (p : Preparation) :
    (g.prepare p).Prepared package rootClass dialect (es ++ p.enumeration?.toList) := by
  cases p with
  | enumeration e =>
      refine ⟨h.package, h.rootClass, ?_, rfl⟩
      change (ClassGraph.withEnumerations _ (es ++ [e])).Alike _
      rw [ClassGraph.withEnumerations_concat]
      exact h.observed.declareEnum e.package e.name e.constants
  | _ =>
      change Prepared _ _ _ _ (es ++ [])
      rw [List.append_nil]
      exact ⟨h.package, h.rootClass, ⟨h.observed.builtins, h.observed.classes⟩, h.finished⟩

theorem Prepared.prepareAll (h : g.Prepared package rootClass dialect es)
    (preparations : List Preparation) :
    (g.prepareAll preparations).Prepared package rootClass dialect
      (es ++ preparations.filterMap Preparation.enumeration?) := by
  induction preparations generalizing g es with
  | nil => simpa [Generator.prepareAll] using h
  | cons p rest ih =>
      have hrest := ih (h.prepare p)
      rw [List.append_assoc] at hrest
      cases p <;> exact hrest

/-! ### Documents -/

theorem observeAll_eq (g : Generator) (documents : List Value) :
    (g.observeAll documents).rules = g.rules ∧
      (g.observeAll documents).observed
        = g.observed.buildAll g.package g.rootClass documents := by
  induction documents generalizing g with
  | nil => exact ⟨rfl, rfl⟩
  | cons document rest ih => exact ih (g.observe document)

theorem finished_observeAll (h : g.finished = none) (documents : List Value) :
    (g.observeAll documents).finished = none := by
  induction documents generalizing g with
  | nil => exact h
  | cons document rest ih => exact ih rfl

/-- The finished graph of a prepared generator comes from its enumerations, its documents and its
rules. -/
theorem Prepared.finish (h : g.Prepared package rootClass dialect es) (documents : List Value) :
    (((ClassGraph.withEnumerations dialect.builtins es).buildAll package rootClass
      documents).applyRules g.rules).Alike (g.observeAll documents).finish.2 := by
  obtain ⟨hrules, hobserved⟩ := g.observeAll_eq documents
  have hfinish : (g.observeAll documents).finish.2
      = (g.observed.buildAll package rootClass documents).applyRules g.rules := by
    rw [Generator.finish, finishedGraph, finished_observeAll h.finished, hobserved, hrules,
      h.package, h.rootClass]
    rfl
  have hkeyed := ClassGraph.fieldsKeyed_withEnumerations dialect.builtins es
  rw [hfinish]
  exact (h.observed.buildAll package rootClass documents).applyRules (hkeyed.buildAll _ _ _) g.rules

/-- Two generators of one package, one root class and one dialect that are prepared with the same
rules and the same enumerations, and see the same documents in whatever order, finish with the same
schema. -/
theorem sameSchema_of_perm (package rootClass : String) (dialect : Dialect)
    {preparations preparations' : List Preparation}
    (hrules : ((new package rootClass dialect).prepareAll preparations).rules
      = ((new package rootClass dialect).prepareAll preparations').rules)
    (henums : preparations.filterMap Preparation.enumeration?
      = preparations'.filterMap Preparation.enumeration?)
    {documents documents' : List Value} (hdocuments : documents.Perm documents') :
    SameSchema
      (((new package rootClass dialect).prepareAll preparations).observeAll
        documents).finish.2.describe
      (((new package rootClass dialect).prepareAll preparations').observeAll
        documents').finish.2.describe := by
  have hprepared := (prepared_new package rootClass dialect).prepareAll preparations
  have hprepared' := (prepared_new package rootClass dialect).prepareAll preparations'
  have hfinish := hprepared.finish documents
  have hfinish' := hprepared'.finish documents'
  rw [← henums, ← hrules] at hfinish'
  have hkeyed := (ClassGraph.fieldsKeyed_withEnumerations dialect.builtins
    ([] ++ preparations.filterMap Preparation.enumeration?)).buildAll package rootClass documents
  have horder := (ClassGraph.alike_buildAll_of_perm hdocuments _ package rootClass).applyRules
    hkeyed ((new package rootClass dialect).prepareAll preparations).rules
  have hsame := hfinish.symm.trans (horder.trans hfinish')
  exact hsame.describe ((hkeyed.applyRules _).of_alike hfinish)

/-- `B` is folded into `A`, which derives from the root class, and a field is renamed. -/
def foldingRules : RuleSet :=
  (((∅ : RuleSet).assignSubtype "A" "R").mapType "B" ⟨"A", true⟩).renameField ⟨"A", "x", "first"⟩

def colors : Enumeration := ⟨"p", "Color", [⟨"RED", some "red"⟩]⟩

def enumerationFirst : List Preparation := [.enumeration colors, .rules foldingRules]

def enumerationLast : List Preparation :=
  [.fileHeader (some "h"), .rules foldingRules, .enumeration colors]

/-- A document with an `A`, and with objects under a key that names an enumeration. -/
def nestedDocument : Value :=
  .object [("a", .object [("x", .bool true)]), ("color", .object [("red", .object [])])]

/-- A document with two `B`s in an array, and a `C`. -/
def listedDocument : Value :=
  .object [("b", .array [.object [("y", .string "1")], .object [("x", .string "s")]]),
    ("c", .object [])]

theorem sameSchema_swappedDocuments :
    ((new "p" "R" .java).prepareAll enumerationFirst).rules
        = ((new "p" "R" .java).prepareAll enumerationLast).rules ∧
      enumerationFirst.filterMap Preparation.enumeration?
        = enumerationLast.filterMap Preparation.enumeration? ∧
      [nestedDocument, listedDocument].Perm [listedDocument, nestedDocument] ∧
      SameSchema
        (((new "p" "R" .java).prepareAll enumerationFirst).observeAll
          [nestedDocument, listedDocument]).finish.2.describe
        (((new "p" "R" .java).prepareAll enumerationLast).observeAll
          [listedDocument, nestedDocument]).finish.2.describe := by
  have hrules : ((new "p" "R" .java).prepareAll enumerationFirst).rules
      = ((new "p" "R" .java).prepareAll enumerationLast).rules := rfl
  have hdocuments : [nestedDocument, listedDocument].Perm [listedDocument, nestedDocument] :=
    .swap listedDocument nestedDocument []
  exact ⟨hrules, rfl, hdocuments, sameSchema_of_perm "p" "R" .java hrules rfl hdocuments⟩

/-- The orders of the classes do differ. -/
example :
    (((new "p" "R" .java).prepareAll enumerationFirst).observeAll
        [nestedDocument, listedDocument]).finish.2.names = ["String", "Color", "R", "A", "C"] ∧
      (((new "p" "R" .java).prepareAll enumerationLast).observeAll
        [listedDocument, nestedDocument]).finish.2.names = ["String", "Color", "R", "C", "A"] := by
  decide +kernel

end Generator

end ClassInference
