import ClassInference.Observation
import Mathlib.Order.Bounds.Basic

/-!
# Common types

The primitive types form a join semilattice with `string` on top, and the inferred type of
observations is their least upper bound: nothing is above `string`, so ending the search there
loses nothing.
-/

namespace ClassInference

namespace Primitive

theorem le_trans {a b c : Primitive} (hab : a ≤ b) (hbc : b ≤ c) : a ≤ c := by
  revert hab hbc
  cases a <;> cases b <;> cases c <;> decide

theorem le_antisymm {a b : Primitive} (hab : a ≤ b) (hba : b ≤ a) : a = b := by
  revert hab hba
  cases a <;> cases b <;> decide

theorem join_le {a b c : Primitive} (hac : a ≤ c) (hbc : b ≤ c) : a.join b ≤ c := by
  revert hac hbc
  cases a <;> cases b <;> cases c <;> decide

instance : SemilatticeSup Primitive where
  le_refl a := by cases a <;> decide
  le_trans _ _ _ := le_trans
  le_antisymm _ _ := le_antisymm
  sup := join
  le_sup_left a b := by cases a <;> cases b <;> decide
  le_sup_right a b := by cases a <;> cases b <;> decide
  sup_le _ _ _ := join_le

instance : OrderTop Primitive where
  top := string
  le_top a := by cases a <;> decide

theorem top_eq : (⊤ : Primitive) = string := rfl

end Primitive

namespace Observation

variable {os ps : List Observation} {o : Observation} {current : Option Primitive} {p : Primitive}

/-- A known type and an observation stay below a type exactly if what they widen to does. -/
theorem forall_mem_widen_le_iff (current : Option Primitive) (p q : Primitive) :
    (∀ r ∈ widen current p, r ≤ q) ↔ (∀ r ∈ current, r ≤ q) ∧ p ≤ q := by
  cases current with
  | none => simp [widen]
  | some r =>
      have hjoin : r.join p ≤ q ↔ r ≤ q ∧ p ≤ q := sup_le_iff
      simpa [widen] using hjoin

/-- The inferred type stays below a type exactly if all that it takes into account does. -/
theorem forall_mem_infer_le_iff (os : List Observation) (current : Option Primitive)
    (q : Primitive) :
    (∀ r ∈ infer os current, r ≤ q) ↔ (∀ r ∈ current, r ≤ q) ∧ ∀ o ∈ os, o.classify ≤ q := by
  fun_induction infer os current with
  | case1 current => simp
  | case2 o rest current widened hstop =>
      -- the rest is below `string` anyway
      have hq : (∀ r ∈ widened, r ≤ q) ↔ q = .string := by
        rw [hstop]
        simpa [Primitive.top_eq] using top_le_iff (a := q)
      have hrest : q = .string → ∀ o ∈ rest, o.classify ≤ q := by
        rintro rfl o _
        exact le_top (a := o.classify)
      rw [hq, List.forall_mem_cons, ← and_assoc, ← forall_mem_widen_le_iff, hq]
      exact (and_iff_left_of_imp hrest).symm
  | case3 o rest current widened hgo ih =>
      rw [ih, forall_mem_widen_le_iff, List.forall_mem_cons, and_assoc]

theorem infer_eq_none_iff : infer os current = none ↔ os = [] ∧ current = none := by
  fun_induction infer os current with
  | case1 current => simp
  | case2 o rest current widened hstop => simp [hstop]
  | case3 o rest current widened hgo ih =>
      rw [ih]
      simp [widened, widen]

/-- The inferred type is the least upper bound of the known type and the types of the
observations. -/
theorem isLUB_of_infer (h : infer os current = some p) :
    IsLUB {q | q ∈ current ∨ ∃ o ∈ os, o.classify = q} p := by
  rw [isLUB_iff_le_iff]
  intro q
  have hle := forall_mem_infer_le_iff os current q
  rw [h] at hle
  simpa [upperBounds, or_imp, forall_and] using hle

theorem infer_eq_some_iff : infer os current = some p ↔
    ¬(os = [] ∧ current = none) ∧ IsLUB {q | q ∈ current ∨ ∃ o ∈ os, o.classify = q} p := by
  constructor
  · intro h
    refine ⟨?_, isLUB_of_infer h⟩
    rw [← infer_eq_none_iff, h]
    exact Option.some_ne_none p
  · rintro ⟨hknown, hlub⟩
    obtain ⟨q, hq⟩ := Option.ne_none_iff_exists'.mp (mt infer_eq_none_iff.mp hknown)
    rw [hq, (isLUB_of_infer hq).unique hlub]

/-- Neither the order of the observations counts nor how often one is made. -/
theorem infer_congr (h : ∀ o, o ∈ ps ↔ o ∈ os) (current : Option Primitive) :
    infer ps current = infer os current := by
  have hnil : ps = [] ↔ os = [] := by
    simp only [List.eq_nil_iff_forall_not_mem, h]
  apply Option.ext
  intro p
  rw [infer_eq_some_iff, infer_eq_some_iff, hnil]
  simp only [h]

/-- Observations made once more tell nothing new. -/
theorem infer_append_self (os : List Observation) : infer (os ++ os) none = infer os none :=
  infer_congr (by simp) none

/-! ### One list after another -/

/-- Nothing widens `string`. -/
theorem foldl_widen_string (os : List Observation) :
    os.foldl (fun t o => widen t o.classify) (some .string) = some .string := by
  induction os with
  | nil => rfl
  | cons o os ih =>
      have htop : Primitive.string.join o.classify = .string := top_sup_eq o.classify
      have hwiden : widen (some .string) o.classify = some .string := congrArg some htop
      rw [List.foldl_cons, hwiden, ih]

/-- The search that ends at `string` comes to the same as one that goes on. -/
theorem infer_eq_foldl (os : List Observation) (current : Option Primitive) :
    infer os current = os.foldl (fun t o => widen t o.classify) current := by
  fun_induction infer os current with
  | case1 current => rfl
  | case2 o rest current widened hstop =>
      have hfirst : widen current o.classify = some .string := hstop
      rw [List.foldl_cons, hfirst, foldl_widen_string]
      exact hstop
  | case3 o rest current widened hgo ih => exact ih

theorem infer_append (os ps : List Observation) (current : Option Primitive) :
    infer (os ++ ps) current = infer ps (infer os current) := by
  simp only [infer_eq_foldl, List.foldl_append]

/-- Observations never move a known type down. -/
theorem le_infer (os : List Observation) (current : Option Primitive) :
    current ≤ infer os current := by
  cases current with
  | none => exact Option.none_le
  | some p =>
      have hknown : infer os (some p) ≠ none := by simp [infer_eq_none_iff]
      obtain ⟨q, hq⟩ := Option.ne_none_iff_exists'.mp hknown
      have hle : p ≤ q := (isLUB_of_infer hq).1 (.inl rfl)
      rw [hq]
      exact Option.some_le_some.mpr hle

/-- Observations of one type, taken together, are of that type. -/
theorem infer_append_of_eq_some (hos : infer os none = some p) (hps : infer ps none = some p) :
    infer (os ++ ps) none = some p := by
  obtain ⟨hknown, hlub⟩ := infer_eq_some_iff.mp hps
  rw [infer_append, hos, infer_eq_some_iff]
  refine ⟨by simp, ?_⟩
  have hset : {q | q ∈ some p ∨ ∃ o ∈ ps, o.classify = q}
      = insert p {q | q ∈ (none : Option Primitive) ∨ ∃ o ∈ ps, o.classify = q} := by
    ext q
    simp [eq_comm]
  rw [hset]
  simpa using hlub.insert p

/-- The inferred type is unknown only where nothing is known or observed, and otherwise it is the
least type that the known type and all observations widen to. So neither order nor repetition of the
observations counts, and those that come later can be taken into account later: they never move the
type down. -/
theorem infer_isLeastUpperBound (os : List Observation) (current : Option Primitive) :
    (infer os current = none ↔ os = [] ∧ current = none) ∧
      (∀ p, infer os current = some p ↔ ¬(os = [] ∧ current = none) ∧
        IsLUB {q | q ∈ current ∨ ∃ o ∈ os, o.classify = q} p) ∧
      (∀ ps, (∀ o, o ∈ ps ↔ o ∈ os) → infer ps current = infer os current) ∧
      ∀ ps, infer (os ++ ps) current = infer ps (infer os current) ∧
        infer os current ≤ infer (os ++ ps) current := by
  refine ⟨infer_eq_none_iff, fun p => infer_eq_some_iff, fun ps h => infer_congr h current, ?_⟩
  intro ps
  have happend := infer_append os ps current
  refine ⟨happend, ?_⟩
  rw [happend]
  exact le_infer ps (infer os current)

end Observation

end ClassInference
