import ClassInference.Proofs.Edits
import ClassInference.Proofs.Inheritance.Folding
import Mathlib.Data.List.Induction

/-!
# Acyclic runs

Every graph that edits lead to from a new one has its nodes under their names and its base links
led to nodes. Its inheritance stays acyclic as long as no type rename folds a class into one that
derives from it through another class, and the first such rename closes a cycle.
-/

namespace ClassInference

namespace ClassGraph

open Relation

variable {g : ClassGraph} {e : Edit}

/-- The edits that close an inheritance cycle. -/
def ClosesCycle (g : ClassGraph) : Edit → Prop
  | .renameType old target => g.FoldsDistantAncestor old target.name
  | _ => False

theorem keepsLinks_new (builtins : Builtins) :
    KeepsLinks ⟨∅, builtins, 0, none, none⟩ (new builtins) :=
  keepsLinks_ensure _ _ _

theorem wellLinked_new (builtins : Builtins) : (new builtins).WellLinked := by
  apply (keepsLinks_new builtins).wellLinked
  constructor
  · intro name c hc
    simp [find?] at hc
  · intro sub base hd
    simp [Derives, baseName?, find?] at hd

theorem acyclic_new (builtins : Builtins) : (new builtins).Acyclic := by
  apply (keepsLinks_new builtins).acyclic
  intro name
  exact not_transGen_of_baseName? rfl

theorem wellLinked_absorb {other : ClassGraph} (hg : g.WellLinked) :
    (g.absorb other).WellLinked := by
  have hready : (other.nodes.foldl adoptEmpty g).WellLinked :=
    (keepsLinks_foldl keepsLinks_adoptEmpty _ g).wellLinked hg
  exact List.foldlRecOn _ _ hready fun k hk c _ => wellLinked_merge hk

theorem acyclic_absorb {other : ClassGraph} (hg : g.Acyclic) : (g.absorb other).Acyclic := by
  have hready : (other.nodes.foldl adoptEmpty g).Acyclic :=
    (keepsLinks_foldl keepsLinks_adoptEmpty _ g).acyclic hg
  exact List.foldlRecOn _ _ hready fun k hk c _ => acyclic_merge hk

theorem wellLinked_edit (hg : g.WellLinked) (e : Edit) : (g.edit e).WellLinked := by
  cases e with
  | ensure package name => exact (keepsLinks_ensure g package name).wellLinked hg
  | declareEnum package name constants =>
      exact (keepsLinks_declareEnum g package name constants).wellLinked hg
  | build document package name =>
      exact (keepsLinks_build g document package name).wellLinked hg
  | merge target other => exact wellLinked_merge hg
  | absorb other => exact wellLinked_absorb hg
  | rename old new =>
      rw [edit]
      cases hk : g.rename? old new with
      | none => exact hg
      | some k => exact wellLinked_rename? hg hk
  | remove name =>
      rw [edit]
      cases hk : g.remove? name with
      | none => exact hg
      | some r => exact wellLinked_remove? hg hk
  | setBase sub base => exact wellLinked_setBase hg
  | renameType old target => exact wellLinked_renameType hg
  | renameField rule => exact (keepsLinks_renameField g rule).wellLinked hg
  | deleteField rule => exact (keepsLinks_deleteField g rule).wellLinked hg

theorem wellLinked_run (builtins : Builtins) (edits : List Edit) :
    ((new builtins).run edits).WellLinked := by
  apply run_induction _ (wellLinked_new builtins)
  intro g e hg
  exact wellLinked_edit hg e

theorem wellLinked_runCalls (builtins : Builtins) (calls : List Call) :
    ((new builtins).runCalls calls).WellLinked := by
  rw [runCalls_eq_run]
  exact wellLinked_run builtins _

theorem acyclic_edit (hg : g.Acyclic) (hw : g.WellLinked) (h : ¬ g.ClosesCycle e) :
    (g.edit e).Acyclic := by
  cases e with
  | ensure package name => exact (keepsLinks_ensure g package name).acyclic hg
  | declareEnum package name constants =>
      exact (keepsLinks_declareEnum g package name constants).acyclic hg
  | build document package name => exact (keepsLinks_build g document package name).acyclic hg
  | merge target other => exact acyclic_merge hg
  | absorb other => exact acyclic_absorb hg
  | rename old new =>
      rw [edit]
      cases hk : g.rename? old new with
      | none => exact hg
      | some k => exact acyclic_rename? hg hw hk
  | remove name =>
      rw [edit]
      cases hk : g.remove? name with
      | none => exact hg
      | some r => exact acyclic_remove? hg hk
  | setBase sub base => exact acyclic_setBase hg
  | renameType old target => exact (acyclic_renameType_iff hg hw).2 h
  | renameField rule => exact (keepsLinks_renameField g rule).acyclic hg
  | deleteField rule => exact (keepsLinks_deleteField g rule).acyclic hg

/-- One edit keeps inheritance acyclic unless it folds a distant ancestor, and then it does not. -/
theorem acyclic_edit_iff (hg : g.Acyclic) (hw : g.WellLinked) (e : Edit) :
    (g.edit e).Acyclic ↔ ¬ g.ClosesCycle e := by
  constructor
  · intro ha
    cases e with
    | renameType old target => exact (acyclic_renameType_iff hg hw).1 ha
    | _ => exact not_false
  · exact acyclic_edit hg hw

/-- Calls are carried out edit by edit, a rule set rule by rule, and inheritance is acyclic all the
way exactly if no edit on the way folds a class into one that derives from it through another. -/
theorem acyclic_throughout_iff (builtins : Builtins) (calls : List Call) :
    (new builtins).runCalls calls = (new builtins).run (calls.flatMap Call.edits) ∧
      ((∀ done, done <+: calls.flatMap Call.edits → ((new builtins).run done).Acyclic) ↔
        ∀ done next, done ++ [next] <+: calls.flatMap Call.edits →
          ¬ ((new builtins).run done).ClosesCycle next) := by
  refine ⟨runCalls_eq_run _ calls, ?_⟩
  generalize calls.flatMap Call.edits = edits
  constructor
  · intro h done next hp
    have hdone := h done ((List.prefix_append done [next]).trans hp)
    have hnext := h (done ++ [next]) hp
    rw [run_append, run_cons, run_nil] at hnext
    exact (acyclic_edit_iff hdone (wellLinked_run builtins done) next).1 hnext
  · intro h done
    induction done using List.reverseRecOn with
    | nil =>
        intro _
        exact acyclic_new builtins
    | append_singleton done next ih =>
        intro hp
        have hdone := ih ((List.prefix_append done [next]).trans hp)
        rw [run_append, run_cons, run_nil]
        exact acyclic_edit hdone (wellLinked_run builtins done) (h done next hp)

/-- `A` derives from `B` and `B` from `C`, and `C` is folded into `A`. -/
def foldIntoHeir : List Call :=
  [.edit (.ensure "p" "A"), .edit (.ensure "p" "B"), .edit (.ensure "p" "C"),
    .edit (.setBase "A" "B"), .edit (.setBase "B" "C"), .edit (.renameType "C" ⟨"A", false⟩)]

/-- Calls can lead from a new graph to one where two classes derive from each other. -/
theorem not_acyclic_foldIntoHeir :
    ¬ ((new ⟨"java.lang", "String", "java"⟩).runCalls foldIntoHeir).Acyclic := by
  intro h
  have hA : ((new ⟨"java.lang", "String", "java"⟩).runCalls foldIntoHeir).Derives "A" "B" := by
    decide +kernel
  have hB : ((new ⟨"java.lang", "String", "java"⟩).runCalls foldIntoHeir).Derives "B" "A" := by
    decide +kernel
  exact h "A" (.tail (.single hA) hB)

end ClassGraph

end ClassInference
