import ClassInference.Proofs.TypeRenames.Moves
import Mathlib.Tactic.ByContra

/-!
# Classes under the names of primitives

A type rename whose target is a primitive is meant to map fields. The class of the old name is
folded away where a node of the target's name is present, as it is for the string type of the
language. For the other spellings there is none, so the class is renamed in its place and gets a
source file under the name of a primitive, unless a later rule moves it on.
-/

namespace ClassInference

namespace ClassGraph

variable {g k : ClassGraph} {old name : String} {target : TypeSpec}

/-- The name is read as a primitive. -/
def NamesPrimitive (g : ClassGraph) (name : String) : Prop := ∃ p, g.resolveType name = .primitive p

instance (g : ClassGraph) (name : String) : Decidable (g.NamesPrimitive name) :=
  match h : g.resolveType name with
  | .primitive p => isTrue ⟨p, h⟩
  | .named n => isFalse fun ⟨p, hp⟩ => by simp [h] at hp

/-- A node of the name gets a source file. -/
def Generates (g : ClassGraph) (name : String) : Prop :=
  (g.identity? name).any (·.generate) = true

instance (g : ClassGraph) (name : String) : Decidable (g.Generates name) :=
  inferInstanceAs (Decidable (_ = _))

/-- A node that gets a source file has a name that is read as a primitive. -/
def Exposes (g : ClassGraph) (name : String) : Prop := g.NamesPrimitive name ∧ g.Generates name

instance (g : ClassGraph) (name : String) : Decidable (g.Exposes name) :=
  inferInstanceAs (Decidable (_ ∧ _))

/-- The rename gives a class that gets a source file the name of a primitive, which is free. -/
def ExposesBy (g : ClassGraph) (old : String) (target : TypeSpec) : Prop :=
  g.NamesPrimitive target.name ∧ target.name ∉ g.names ∧ g.Generates old ∧ g.isBuiltin old = false

instance (g : ClassGraph) (old : String) (target : TypeSpec) : Decidable (g.ExposesBy old target) :=
  inferInstanceAs (Decidable (_ ∧ _ ∧ _ ∧ _))

theorem generates_iff : g.Generates name ↔ ∃ c, g.find? name = some c ∧ c.generate = true := by
  unfold Generates identity?
  cases g.find? name <;> simp [ClassNode.identity]

theorem Generates.mem_names (h : g.Generates name) : name ∈ g.names := by
  obtain ⟨c, hc, -⟩ := generates_iff.1 h
  exact mem_names_of_find? hc

theorem not_exposes_iff : (∀ name, ¬ g.Exposes name) ↔ ∀ name ∈ g.names, ¬ g.Exposes name :=
  ⟨fun h name _ => h name, fun h name hname => h name hname.2.mem_names hname⟩

theorem exposes_congr (hbuiltins : k.builtins = g.builtins) (hid : k.identity? = g.identity?) :
    k.Exposes name ↔ g.Exposes name := by
  unfold Exposes NamesPrimitive Generates
  rw [resolveType_congr hbuiltins, hid]

/-! ### One rename -/

/-- No class that is exposed is built in. -/
def ExposesOwn (g : ClassGraph) : Prop := ∀ name, g.Exposes name → g.isBuiltin name = false

theorem exposes_renameType_iff_moveClass :
    (g.renameType old target).Exposes name ↔
      g.NamesPrimitive name ∧ (g.moveClass old target.name).Generates name := by
  unfold Exposes NamesPrimitive Generates
  rw [resolveType_congr (g.builtins_renameType old target), identity?_renameType]

/-- After a rename a name is exposed because the rename exposes it, or because it was exposed and
the rename leaves it. -/
theorem exposes_renameType_iff (hg : g.ExposesOwn) :
    (g.renameType old target).Exposes name ↔
      (name = target.name ∧ g.ExposesBy old target) ∨
        (g.Exposes name ∧ (old = name → target.name = name)) := by
  rw [exposes_renameType_iff_moveClass]
  by_cases hstays : g.isBuiltin old = true ∨ old = target.name ∨ old ∉ g.names
  · rw [moveClass_of_stays hstays]
    constructor
    · intro h
      refine .inr ⟨h, ?_⟩
      rintro rfl
      rcases hstays with hbuiltin | hsame | hold
      · exact absurd (hg old h) (by simp [hbuiltin])
      · exact hsame.symm
      · exact absurd h.2.mem_names hold
    · rintro (⟨-, -, hfree, hgen, hbuiltin⟩ | ⟨h, -⟩)
      · rcases hstays with hb | hsame | hold
        · simp [hb] at hbuiltin
        · exact absurd (hsame ▸ hgen.mem_names) hfree
        · exact absurd hgen.mem_names hold
      · exact h
  · rw [not_or, not_or, Bool.not_eq_true, not_not] at hstays
    obtain ⟨hbuiltin, hne, hold⟩ := hstays
    unfold Exposes ExposesBy Generates
    rw [identity?_moveClass hbuiltin hne hold]
    by_cases ho : name = old
    · simp [ho, hne, Ne.symm hne]
    · rw [if_neg ho]
      by_cases hn : name = target.name
      · subst hn
        rw [if_pos rfl, ← isSome_identity?_iff]
        cases g.identity? target.name <;> simp [hbuiltin]
      · simp [hn, Ne.symm ho]

theorem exposesOwn_renameType (hg : g.ExposesOwn) (old : String) (target : TypeSpec) :
    (g.renameType old target).ExposesOwn := by
  have hbuiltins := g.builtins_renameType old target
  intro name h
  rw [exposes_renameType_iff hg] at h
  rcases h with ⟨rfl, -, hfree, hgen, hbuiltin⟩ | ⟨h, hkeep⟩
  · have hne : old ≠ target.name := by
      rintro rfl
      exact hfree hgen.mem_names
    have hnone : g.identity? target.name = none := by
      rw [identity?, find?_eq_none_iff.2 hfree, Option.map_none]
    have hid : (g.renameType old target).identity? target.name = g.identity? old := by
      rw [identity?_renameType, identity?_moveClass hbuiltin hne hgen.mem_names, if_neg hne.symm,
        if_pos rfl, hnone]
      rfl
    rw [isBuiltin_congr hbuiltins hid, hbuiltin]
  · have hid := g.identity?_renameType_of_mem_names h.2.mem_names hkeep
    rw [isBuiltin_congr hbuiltins hid, hg name h]

/-! ### A rule set -/

/-- Type renames one after the other. -/
def renameTypes (g : ClassGraph) (entries : List (String × TypeSpec)) : ClassGraph :=
  entries.foldl (fun acc e => acc.renameType e.1 e.2) g

/-- A name is exposed at the end because a rename exposes it, or because it is from the start, and
no later rename moves it on. -/
theorem exposes_renameTypes_iff (hg : g.ExposesOwn) (entries : List (String × TypeSpec)) :
    (g.renameTypes entries).Exposes name ↔
      (g.Exposes name ∧ ∀ e ∈ entries, e.1 = name → e.2.name = name) ∨
        ∃ done next later, entries = done ++ next :: later ∧ next.2.name = name ∧
          (g.renameTypes done).ExposesBy next.1 next.2 ∧
          ∀ e ∈ later, e.1 = name → e.2.name = name := by
  induction entries generalizing g with
  | nil => simp [renameTypes]
  | cons e entries ih =>
      have hstep := ih (exposesOwn_renameType hg e.1 e.2)
      rw [renameTypes, List.foldl_cons]
      change ((g.renameType e.1 e.2).renameTypes entries).Exposes name ↔ _
      rw [hstep, exposes_renameType_iff hg]
      constructor
      · rintro (⟨⟨rfl, hby⟩ | ⟨hname, he⟩, hlater⟩ | ⟨done, next, later, rfl, hnext⟩)
        · exact .inr ⟨[], e, entries, rfl, rfl, hby, hlater⟩
        · exact .inl ⟨hname, List.forall_mem_cons.2 ⟨he, hlater⟩⟩
        · exact .inr ⟨e :: done, next, later, rfl, hnext⟩
      · rintro (⟨hname, hall⟩ | ⟨done, next, later, hsplit, hnext, hby, hlater⟩)
        · rw [List.forall_mem_cons] at hall
          exact .inl ⟨.inr ⟨hname, hall.1⟩, hall.2⟩
        · rcases List.cons_eq_append_iff.1 hsplit with ⟨rfl, hcons⟩ | ⟨done', rfl, rfl⟩
          · rw [List.cons.injEq] at hcons
            obtain ⟨rfl, rfl⟩ := hcons
            exact .inl ⟨.inl ⟨hnext.symm, hby⟩, hlater⟩
          · exact .inr ⟨done', next, later, rfl, hnext, hby, hlater⟩

/-- Steps that change neither the identities nor the language expose nothing. -/
theorem exposes_foldl_iff {α : Type*} {f : ClassGraph → α → ClassGraph}
    (hbuiltins : ∀ g x, (f g x).builtins = g.builtins)
    (hid : ∀ g x, (f g x).identity? = g.identity?) (xs : List α) (g : ClassGraph) :
    ClassGraph.Exposes (xs.foldl f g) name ↔ g.Exposes name := by
  induction xs generalizing g with
  | nil => rfl
  | cons x xs ih => exact (ih (f g x)).trans (exposes_congr (hbuiltins g x) (hid g x))

theorem exposes_applySubtypes_iff (g : ClassGraph) (r : RuleSet) :
    (g.applySubtypes r).Exposes name ↔ g.Exposes name := by
  unfold applySubtypes
  apply exposes_foldl_iff
  · exact fun g e => g.builtins_edit (.setBase e.1 e.2)
  · exact fun g e => g.identity?_setBase e.1 e.2

theorem exposes_applyFieldRenames_iff (g : ClassGraph) (r : RuleSet) :
    (g.applyFieldRenames r).Exposes name ↔ g.Exposes name := by
  unfold applyFieldRenames
  apply exposes_foldl_iff
  · exact fun g rule => g.builtins_edit (.renameField rule)
  · exact identity?_renameField

theorem exposes_applyFieldDeletes_iff (g : ClassGraph) (r : RuleSet) :
    (g.applyFieldDeletes r).Exposes name ↔ g.Exposes name := by
  unfold applyFieldDeletes
  apply exposes_foldl_iff
  · exact fun g rule => g.builtins_edit (.deleteField rule)
  · exact identity?_deleteField

/-- Only type renames expose a class. -/
theorem exposes_applyRules_iff (g : ClassGraph) (r : RuleSet) :
    (g.applyRules r).Exposes name
      ↔ ((g.applySubtypes r).renameTypes r.typeRenames.entries).Exposes name := by
  rw [applyRules, exposes_applyFieldDeletes_iff, exposes_applyFieldRenames_iff]
  rfl

/-- A rule set leaves no class under the name of a primitive, if there was none, exactly if every
type rename that brings a class under such a name is followed by one that takes it from there. -/
theorem not_exposes_applyRules_iff (hg : ∀ name, ¬ g.Exposes name) (r : RuleSet) :
    (∀ name, ¬ (g.applyRules r).Exposes name) ↔
      ∀ done next later, r.typeRenames.entries = done ++ next :: later →
        ((g.applySubtypes r).renameTypes done).ExposesBy next.1 next.2 →
          ∃ e ∈ later, e.1 = next.2.name ∧ e.2.name ≠ next.2.name := by
  have hready : ∀ name, ¬ (g.applySubtypes r).Exposes name := fun name h =>
    hg name ((g.exposes_applySubtypes_iff r).1 h)
  have hown : (g.applySubtypes r).ExposesOwn := fun name h => absurd h (hready name)
  simp only [exposes_applyRules_iff, exposes_renameTypes_iff hown, hready, false_and, false_or]
  constructor
  · intro h done next later hsplit hby
    by_contra hstay
    refine h next.2.name ⟨done, next, later, hsplit, rfl, hby, fun e he hname => ?_⟩
    by_contra hmoves
    exact hstay ⟨e, he, hname, hmoves⟩
  · rintro h name ⟨done, next, later, hsplit, rfl, hby, hstay⟩
    obtain ⟨e, he, hname, hmoves⟩ := h done next later hsplit hby
    exact hmoves (hstay e he hname)

/-- A class that is moved to the string type is gone, as a node of that name is present. -/
example : ¬ (((new ⟨"java.lang", "String", "java"⟩).build
    (.object [("a", .object [("x", .bool true)])]) "p" "R").applyRules
      ⟨.ofList [("A", ⟨"String", false⟩)], ∅, [], []⟩).Exposes "String" := by
  decide +kernel

/-- A class that is moved to another primitive takes its name. -/
theorem exposes_int_renamedClass :
    let g := (new ⟨"java.lang", "String", "java"⟩).build
      (.object [("a", .object [("x", .bool true)])]) "p" "R"
    (∀ name, ¬ g.Exposes name) ∧
      (g.applyRules ⟨.ofList [("A", ⟨"int", false⟩)], ∅, [], []⟩).Exposes "int" := by
  intro g
  have hg : ∀ name ∈ g.names, ¬ g.Exposes name := by decide +kernel
  have hint : (g.applyRules ⟨.ofList [("A", ⟨"int", false⟩)], ∅, [], []⟩).Exposes "int" := by
    decide +kernel
  exact ⟨not_exposes_iff.2 hg, hint⟩

/-- From there another rule can take it on. -/
theorem not_exposes_applyRules_movedOn :
    let g := (new ⟨"java.lang", "String", "java"⟩).build
      (.object [("a", .object [("x", .bool true)])]) "p" "R"
    let rules : RuleSet := ⟨.ofList [("A", ⟨"int", false⟩), ("int", ⟨"B", false⟩)], ∅, [], []⟩
    (∀ name, ¬ g.Exposes name) ∧ ((∀ name, ¬ (g.applyRules rules).Exposes name) ↔
      ∀ done next later, rules.typeRenames.entries = done ++ next :: later →
        ((g.applySubtypes rules).renameTypes done).ExposesBy next.1 next.2 →
          ∃ e ∈ later, e.1 = next.2.name ∧ e.2.name ≠ next.2.name) := by
  intro g rules
  have hg : ∀ name ∈ g.names, ¬ g.Exposes name := by decide +kernel
  have hnone := not_exposes_iff.2 hg
  exact ⟨hnone, not_exposes_applyRules_iff hnone rules⟩

end ClassGraph

end ClassInference
