import ClassInference.Proofs.CommonType
import ClassInference.Proofs.Documents.Leaves
import ClassInference.Proofs.Documents.Objects

/-!
# Described values

What a field that has taken note of values tells of them: their primitive leaves, whether one is an
array and whether one holds an object, and with that their common type. The order in which the
values came shows in the order of the observations alone.
-/

namespace ClassInference

open Json (Value)
open Observation (objects leaves hasObject HasLeaves Holds)

namespace Field

variable {f : Field} {key nested : String} {vs : List Value}

/-- Take note of values under the field's key, one after the other. -/
def observeAll (f : Field) (vs : List Value) (nested : String) : Field :=
  vs.foldl (fun f v => f.observe v nested) f

theorem observed_observeAll :
    (f.observeAll vs nested).observed = f.observed ++ vs.flatMap leaves := by
  induction vs generalizing f with
  | nil => simp [observeAll]
  | cons v vs ih => simpa [observeAll, observe] using ih (f := f.observe v nested)

theorem isArray_observeAll :
    (f.observeAll vs nested).isArray = (f.isArray || vs.any Observation.isArray) := by
  induction vs generalizing f with
  | nil => simp [observeAll]
  | cons v vs ih => simpa [observeAll, observe, Bool.or_assoc] using ih (f := f.observe v nested)

theorem mapped_observeAll : (f.observeAll vs nested).mapped = f.mapped := by
  induction vs generalizing f with
  | nil => rfl
  | cons v vs ih => exact ih (f := f.observe v nested)

theorem nested_observeAll :
    (f.observeAll vs nested).nested
      = (f.nested <|> if vs.any hasObject then some nested else none) := by
  induction vs generalizing f with
  | nil => simp [observeAll]
  | cons v vs ih =>
      change ((f.observe v nested).observeAll vs nested).nested = _
      rw [ih, observe, List.any_cons]
      cases f.nested <;> cases hasObject v <;> simp

/-- The field says of the values under its key what they are: its observations are the leaves of all
of them, it is an array if one of them is, and its type is the class of the key if one of them holds
an object, and else the least type above all observations, or `string` where there are none. -/
structure Describes (f : Field) (key : String) (vs : List Value) : Prop where
  observed : ∃ oss, List.Forall₂ HasLeaves vs oss ∧ f.observed.Perm oss.flatten
  isArray : f.isArray = true ↔ ∃ items, .array items ∈ vs
  named : f.typeRef = .named (Naming.typeName key) ↔
    ∃ v ∈ vs, ∃ members, Holds v (.object members)
  primitive : (¬ ∃ v ∈ vs, ∃ members, Holds v (.object members)) → f.observed ≠ [] →
    ∃ p, f.typeRef = .primitive p ∧ IsLUB {q | ∃ o ∈ f.observed, o.classify = q} p
  string : (¬ ∃ v ∈ vs, ∃ members, Holds v (.object members)) → f.observed = [] →
    f.typeRef = .primitive .string

/-- The order of the values does not matter. -/
theorem Describes.perm {ws : List Value} (h : f.Describes key vs) (hp : vs.Perm ws) :
    f.Describes key ws := by
  have hmem : ∀ {P : Value → Prop}, (∃ v ∈ ws, P v) ↔ ∃ v ∈ vs, P v :=
    exists_congr fun _ => and_congr_left' hp.symm.mem_iff
  constructor
  · obtain ⟨oss, hleaves, hobserved⟩ := h.observed
    rw [Observation.forall₂_hasLeaves_iff] at hleaves
    refine ⟨ws.map leaves, Observation.forall₂_hasLeaves_iff.2 rfl, hobserved.trans ?_⟩
    rw [hleaves]
    exact (hp.map leaves).flatten
  · exact h.isArray.trans (exists_congr fun _ => hp.mem_iff)
  · exact h.named.trans hmem.symm
  · intro hno
    exact h.primitive (mt hmem.2 hno)
  · intro hno
    exact h.string (mt hmem.2 hno)

theorem typeRef_observeAll_new :
    ((new key).observeAll vs nested).typeRef
      = if vs.any hasObject then .named nested
        else .primitive ((Observation.infer (vs.flatMap leaves) none).getD .string) := by
  have hnested : ((new key).observeAll vs nested).nested
      = if vs.any hasObject then some nested else none := nested_observeAll
  have hobserved : ((new key).observeAll vs nested).observed = vs.flatMap leaves :=
    observed_observeAll
  have hmapped : ((new key).observeAll vs nested).mapped = none := mapped_observeAll
  rw [typeRef, hmapped, hnested, inferred, hobserved]
  cases vs.any hasObject <;> rfl

/-- A field that has taken note of values describes them. -/
theorem describes_observeAll_new (key : String) (vs : List Value) :
    ((new key).observeAll vs (Naming.typeName key)).Describes key vs := by
  have hobserved : ((new key).observeAll vs (Naming.typeName key)).observed = vs.flatMap leaves :=
    observed_observeAll
  have htype := @typeRef_observeAll_new key (Naming.typeName key) vs
  have hobject : vs.any hasObject = true ↔ ∃ v ∈ vs, ∃ members, Holds v (.object members) := by
    simp only [List.any_eq_true, hasObject_iff, Observation.objects_ne_nil_iff]
  constructor
  · exact ⟨vs.map leaves, Observation.forall₂_hasLeaves_iff.2 rfl, hobserved ▸ .refl _⟩
  · rw [isArray_observeAll]
    simp [new, Observation.isArray_iff]
  · rw [htype, ← hobject]
    split <;> simp_all
  · intro hno hleaves
    rw [← hobject, Bool.not_eq_true] at hno
    rw [hobserved] at hleaves ⊢
    obtain ⟨p, hp⟩ : ∃ p, Observation.infer (vs.flatMap leaves) none = some p := by
      rw [← Option.ne_none_iff_exists', ne_eq, Observation.infer_eq_none_iff]
      exact fun h => hleaves h.1
    refine ⟨p, by simp [htype, hno, hp], ?_⟩
    simpa using Observation.isLUB_of_infer hp
  · intro hno hleaves
    rw [← hobject, Bool.not_eq_true] at hno
    rw [hobserved] at hleaves
    simp [htype, hno, hleaves, Observation.infer]

end Field

end ClassInference
