import ClassInference.ClassGraph.Build
import ClassInference.ClassGraph.Rules

/-!
# Runs of edits

The operations that change a class graph, as data, and what a sequence of them makes of a graph. A
rule set is a sequence of edits too, so that a graph that calls lead to is one that edits lead to.
-/

namespace ClassInference

/-- One change of a class graph. -/
inductive Edit where
  | ensure (package name : String)
  | declareEnum (package name : String) (constants : List EnumConstant)
  | build (document : Json.Value) (package name : String)
  | merge (target : String) (other : ClassNode)
  | absorb (other : ClassGraph)
  | rename (old new : String)
  | remove (name : String)
  | setBase (sub base : String)
  | renameType (old : String) (target : TypeSpec)
  | renameField (rule : FieldRename)
  | deleteField (rule : FieldDelete)

/-- What a caller asks of a graph: one edit, or a rule set. -/
inductive Call where
  | edit (e : Edit)
  | applyRules (rules : RuleSet)

/-- The rules as edits, in the order in which they apply. -/
def RuleSet.edits (r : RuleSet) : List Edit :=
  r.subtypes.entries.map (fun e => .setBase e.1 e.2) ++
    r.typeRenames.entries.map (fun e => .renameType e.1 e.2) ++
    r.fieldRenames.map .renameField ++ r.fieldDeletes.map .deleteField

def Call.edits : Call → List Edit
  | edit e => [e]
  | applyRules rules => rules.edits

namespace ClassGraph

/-- Carry out an edit. One that is refused changes nothing. -/
def edit (g : ClassGraph) : Edit → ClassGraph
  | .ensure package name => g.ensure package name
  | .declareEnum package name constants => g.declareEnum package name constants
  | .build document package name => g.build document package name
  | .merge target other => g.merge target other
  | .absorb other => g.absorb other
  | .rename old new => (g.rename? old new).getD g
  | .remove name => ((g.remove? name).map Prod.snd).getD g
  | .setBase sub base => g.setBase sub base
  | .renameType old target => g.renameType old target
  | .renameField rule => (g.renameField? rule).getD g
  | .deleteField rule => (g.deleteField? rule).getD g

def run (g : ClassGraph) (edits : List Edit) : ClassGraph := edits.foldl edit g

def call (g : ClassGraph) : Call → ClassGraph
  | .edit e => g.edit e
  | .applyRules rules => g.applyRules rules

def runCalls (g : ClassGraph) (calls : List Call) : ClassGraph := calls.foldl call g

@[simp] theorem run_nil (g : ClassGraph) : g.run [] = g := rfl

@[simp] theorem run_cons (g : ClassGraph) (e : Edit) (edits : List Edit) :
    g.run (e :: edits) = (g.edit e).run edits := rfl

@[simp] theorem run_append (g : ClassGraph) (edits later : List Edit) :
    g.run (edits ++ later) = (g.run edits).run later := by
  simp [run]

/-- Applying a rule set is running its rules. -/
theorem applyRules_eq_run (g : ClassGraph) (rules : RuleSet) :
    g.applyRules rules = g.run rules.edits := by
  simp only [RuleSet.edits, run_append]
  simp [applyRules, applySubtypes, applyTypeRenames, applyFieldRenames, applyFieldDeletes, run,
    List.foldl_map, edit]

/-- Calls are run edit by edit. -/
theorem runCalls_eq_run (g : ClassGraph) (calls : List Call) :
    g.runCalls calls = g.run (calls.flatMap Call.edits) := by
  induction calls generalizing g with
  | nil => rfl
  | cons c calls ih =>
      rw [List.flatMap_cons, run_append, runCalls, List.foldl_cons]
      change (g.call c).runCalls calls = _
      rw [ih]
      cases c with
      | edit e => rfl
      | applyRules rules => rw [call, applyRules_eq_run, Call.edits]

/-- What the edits keep holds at the end of every run. -/
theorem run_induction {motive : ClassGraph → Prop} (step : ∀ g e, motive g → motive (edit g e))
    {g : ClassGraph} (hg : motive g) (edits : List Edit) : motive (g.run edits) := by
  induction edits generalizing g with
  | nil => exact hg
  | cons e edits ih => exact ih (step g e hg)

/-- What every kind of rule keeps holds after a rule set. -/
theorem applyRules_induction {motive : ClassGraph → Prop} {rules : RuleSet}
    (setBase : ∀ g sub base, motive g → motive (ClassGraph.setBase g sub base))
    (renameType : ∀ g, ∀ e ∈ rules.typeRenames.entries, motive g →
      motive (ClassGraph.renameType g e.1 e.2))
    (renameField : ∀ g rule, motive g → motive ((renameField? g rule).getD g))
    (deleteField : ∀ g rule, motive g → motive ((deleteField? g rule).getD g))
    {g : ClassGraph} (hg : motive g) : motive (g.applyRules rules) := by
  have hsubtypes : motive (g.applySubtypes rules) :=
    List.foldlRecOn _ _ hg fun k hk e _ => setBase k e.1 e.2 hk
  have htypes : motive ((g.applySubtypes rules).applyTypeRenames rules) :=
    List.foldlRecOn _ _ hsubtypes fun k hk e he => renameType k e he hk
  have hrenamed :
      motive (((g.applySubtypes rules).applyTypeRenames rules).applyFieldRenames rules) :=
    List.foldlRecOn _ _ htypes fun k hk rule _ => renameField k rule hk
  exact List.foldlRecOn _ _ hrenamed fun k hk rule _ => deleteField k rule hk

end ClassGraph

end ClassInference
