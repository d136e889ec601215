import ClassInference.Dialect.Presets
import ClassInference.Generator
import ClassInference.Proofs.Identities
import Mathlib.Data.List.Induction

/-!
# Kept finished graphs

A generator keeps its finished graph until the observed graph is edited. It is up to date as long as
it is what the rules make of the observed graph. Edits and observations drop it; setting a header or
a comment and adding rules do not, so that these make it out of date exactly where they come after
the graph was finished and make a difference to it.
-/

namespace ClassInference

namespace ClassGraph

theorem nodeInvariant_fileHeader (header : Option String) :
    NodeInvariant fun g => g.fileHeader = header where
  ensure g package name hg := (fileHeader_ensure g package name).trans hg
  modify _ _ _ _ hg := hg
  mapNodes _ _ _ hg := hg
  erase _ _ hg := hg
  rekey _ _ _ hg := hg

theorem nodeInvariant_classComment (comment : Option String) :
    NodeInvariant fun g => g.classComment = comment where
  ensure g package name hg := (classComment_ensure g package name).trans hg
  modify _ _ _ _ hg := hg
  mapNodes _ _ _ hg := hg
  erase _ _ hg := hg
  rekey _ _ _ hg := hg

theorem fileHeader_applyRules (g : ClassGraph) (rules : RuleSet) :
    (g.applyRules rules).fileHeader = g.fileHeader := by
  rw [applyRules_eq_run]
  exact (nodeInvariant_fileHeader g.fileHeader).run rfl rules.edits

theorem classComment_applyRules (g : ClassGraph) (rules : RuleSet) :
    (g.applyRules rules).classComment = g.classComment := by
  rw [applyRules_eq_run]
  exact (nodeInvariant_classComment g.classComment).run rfl rules.edits

/-- The rules make another graph of a graph with another header. -/
theorem applyRules_withFileHeader_iff (g : ClassGraph) (rules : RuleSet) (header : Option String) :
    applyRules { g with fileHeader := header } rules = g.applyRules rules
      ↔ header = g.fileHeader := by
  constructor
  · intro h
    have hheader := congrArg fileHeader h
    rwa [fileHeader_applyRules, fileHeader_applyRules] at hheader
  · rintro rfl
    rfl

theorem applyRules_withClassComment_iff (g : ClassGraph) (rules : RuleSet)
    (comment : Option String) :
    applyRules { g with classComment := comment } rules = g.applyRules rules
      ↔ comment = g.classComment := by
  constructor
  · intro h
    have hcomment := congrArg classComment h
    rwa [classComment_applyRules, classComment_applyRules] at hcomment
  · rintro rfl
    rfl

end ClassGraph

/-- What a caller asks of a generator. The files that `generate` plans may be written or not. -/
inductive GeneratorCall where
  | withLayout (layout : Layout)
  | withRules (rules : RuleSet)
  | withFileHeader (header : Option String)
  | withClassComment (comment : Option String)
  | edit (f : ClassGraph → ClassGraph)
  | observe (document : Json.Value)
  | observeText (text : String)
  | finish
  | render (name : String)
  | generate

/-- The call makes a setting of the generator. -/
def GeneratorCall.IsSetting : GeneratorCall → Prop
  | .withLayout _ | .withRules _ | .withFileHeader _ | .withClassComment _ => True
  | _ => False

namespace Generator

/-- The generator after a call. A text that is no document changes nothing. -/
def call (g : Generator) : GeneratorCall → Generator
  | .withLayout layout => g.withLayout layout
  | .withRules rules => g.withRules rules
  | .withFileHeader header => g.withFileHeader header
  | .withClassComment comment => g.withClassComment comment
  | .edit f => g.edit f
  | .observe document => g.observe document
  | .observeText text =>
    match g.observeText text with
    | .ok next => next
    | .error _ => g
  | .finish => g.finish.1
  | .render name => (g.render name).1
  | .generate => g.generate.1

def runCalls (g : Generator) (calls : List GeneratorCall) : Generator := calls.foldl call g

/-- What finishing gives is what the rules make of the observed graph as it is. -/
def UpToDate (g : Generator) : Prop := g.finish.2 = g.observed.applyRules g.rules

/-- The call changes what finishing should give, while an earlier finished graph is kept. -/
def Outdates (g : Generator) : GeneratorCall → Prop
  | .withRules rules =>
    g.finished.isSome ∧ g.observed.applyRules (g.rules.extend rules) ≠ g.observed.applyRules g.rules
  | .withFileHeader header => g.finished.isSome ∧ header ≠ g.observed.fileHeader
  | .withClassComment comment => g.finished.isSome ∧ comment ≠ g.observed.classComment
  | _ => False

variable {g : Generator}

theorem upToDate_iff :
    g.UpToDate ↔ ∀ kept, g.finished = some kept → kept = g.observed.applyRules g.rules := by
  unfold UpToDate finish finishedGraph
  cases g.finished <;> simp

theorem upToDate_of_finished_none (h : g.finished = none) : g.UpToDate := by
  rw [upToDate_iff, h]
  simp

/-- Keeping the finished graph does not change what finishing gives. -/
theorem upToDate_finish (hg : g.UpToDate) : g.finish.1.UpToDate := by
  rw [upToDate_iff]
  intro kept hkept
  rw [← Option.some.inj hkept]
  exact hg

/-- A finished graph that is kept stays up to date exactly if the rules still make it. -/
theorem upToDate_of_kept (hg : g.UpToDate) (next : Generator) (hkept : next.finished = g.finished) :
    next.UpToDate ↔ ¬ (g.finished.isSome ∧
      next.observed.applyRules next.rules ≠ g.observed.applyRules g.rules) := by
  rw [upToDate_iff] at hg ⊢
  rw [hkept]
  cases hf : g.finished with
  | none => simp
  | some kept =>
      have h := hg kept hf
      subst h
      simp [eq_comm]

theorem upToDate_withFileHeader_iff (hg : g.UpToDate) (header : Option String) :
    (g.withFileHeader header).UpToDate ↔
      ¬ (g.finished.isSome ∧ header ≠ g.observed.fileHeader) := by
  have hrules := g.observed.applyRules_withFileHeader_iff g.rules header
  exact (upToDate_of_kept hg (g.withFileHeader header) rfl).trans
    (not_congr (and_congr_right fun _ => not_congr hrules))

theorem upToDate_withClassComment_iff (hg : g.UpToDate) (comment : Option String) :
    (g.withClassComment comment).UpToDate ↔
      ¬ (g.finished.isSome ∧ comment ≠ g.observed.classComment) := by
  have hrules := g.observed.applyRules_withClassComment_iff g.rules comment
  exact (upToDate_of_kept hg (g.withClassComment comment) rfl).trans
    (not_congr (and_congr_right fun _ => not_congr hrules))

theorem upToDate_observeText (hg : g.UpToDate) (text : String) :
    (g.call (.observeText text)).UpToDate := by
  unfold call observeText
  dsimp only
  cases Json.parse text with
  | ok document => exact upToDate_of_finished_none rfl
  | error e => exact hg

/-- One call keeps the finished graph up to date unless it outdates it, and then it does not. -/
theorem upToDate_call_iff (hg : g.UpToDate) (c : GeneratorCall) :
    (g.call c).UpToDate ↔ ¬ g.Outdates c := by
  have hkeeps : ∀ {c : GeneratorCall}, (g.call c).UpToDate → ¬ g.Outdates c →
      ((g.call c).UpToDate ↔ ¬ g.Outdates c) := fun h h' => ⟨fun _ => h', fun _ => h⟩
  cases c with
  | withLayout layout => exact hkeeps hg not_false
  | withRules rules => exact upToDate_of_kept hg (g.withRules rules) rfl
  | withFileHeader header => exact upToDate_withFileHeader_iff hg header
  | withClassComment comment => exact upToDate_withClassComment_iff hg comment
  | edit f => exact hkeeps (upToDate_of_finished_none rfl) not_false
  | observe document => exact hkeeps (upToDate_of_finished_none rfl) not_false
  | observeText text => exact hkeeps (upToDate_observeText hg text) not_false
  | finish => exact hkeeps (upToDate_finish hg) not_false
  | render name => exact hkeeps (upToDate_finish hg) not_false
  | generate => exact hkeeps (upToDate_finish hg) not_false

@[simp] theorem runCalls_concat (g : Generator) (done : List GeneratorCall) (next : GeneratorCall) :
    g.runCalls (done ++ [next]) = (g.runCalls done).call next := by
  simp [runCalls]

/-- Finishing gives what the rules make of the observed graph at every point of a run of calls,
exactly if no call on the way outdates a finished graph that is kept. -/
theorem upToDate_throughout_iff (package rootClass : String) (dialect : Dialect)
    (calls : List GeneratorCall) :
    (∀ done, done <+: calls → ((new package rootClass dialect).runCalls done).UpToDate) ↔
      ∀ done next, done ++ [next] <+: calls →
        ¬ ((new package rootClass dialect).runCalls done).Outdates next := by
  constructor
  · intro h done next hp
    have hdone := h done ((List.prefix_append done [next]).trans hp)
    have hnext := h (done ++ [next]) hp
    rw [runCalls_concat] at hnext
    exact (upToDate_call_iff hdone next).1 hnext
  · intro h done
    induction done using List.reverseRecOn with
    | nil =>
        intro _
        exact upToDate_of_finished_none rfl
    | append_singleton done next ih =>
        intro hp
        have hdone := ih ((List.prefix_append done [next]).trans hp)
        rw [runCalls_concat]
        exact (upToDate_call_iff hdone next).2 (h done next hp)

example :
    let g := (new "p" "R" .java).runCalls [.generate, .withFileHeader (some "h")]
    g.observed.fileHeader = some "h" ∧ g.finish.2.fileHeader = none := by
  decide +kernel

/-! ### Settings made before anything else -/

theorem finished_call_of_isSetting {c : GeneratorCall} (hc : c.IsSetting) :
    (g.call c).finished = g.finished := by
  cases c with
  | withLayout _ | withRules _ | withFileHeader _ | withClassComment _ => rfl
  | _ => exact hc.elim

theorem not_outdates_of_not_isSetting {c : GeneratorCall} (hc : ¬ c.IsSetting) :
    ¬ g.Outdates c := by
  cases c with
  | withLayout _ | withRules _ | withFileHeader _ | withClassComment _ => exact absurd trivial hc
  | _ => exact not_false

/-- A generator whose settings are all made before anything else is always up to date. -/
theorem upToDate_of_settings_first (package rootClass : String) (dialect : Dialect)
    {settings calls : List GeneratorCall} (hsettings : ∀ c ∈ settings, c.IsSetting)
    (hcalls : ∀ c ∈ calls, ¬ c.IsSetting) :
    ((new package rootClass dialect).runCalls (settings ++ calls)).UpToDate := by
  have hnone : ((new package rootClass dialect).runCalls settings).finished = none :=
    List.foldlRecOn (motive := fun g : Generator => g.finished = none) _ _ rfl fun _ hg c hc =>
      (finished_call_of_isSetting (hsettings c hc)).trans hg
  rw [runCalls, List.foldl_append]
  exact List.foldlRecOn (motive := UpToDate) _ _ (upToDate_of_finished_none hnone) fun _ hg c hc =>
    (upToDate_call_iff hg c).2 (not_outdates_of_not_isSetting (hcalls c hc))

end Generator

end ClassInference
