import ClassInference.Observation
import Mathlib.Algebra.Order.Field.Power
import Mathlib.Algebra.Order.Ring.Rat
import Mathlib.Tactic.Positivity

/-!
# Types of numbers

A number is typed by its exact value. A double is a whole number if its significand is a multiple
of the power of two that divides it, whatever its size and sign. What no signed 64-bit integer holds
is a double, whether it was written as an integer or not.
-/

namespace ClassInference

namespace Binary64

/-- The significand times the power of two is a whole number exactly where the split gives it. -/
theorem wholeMagnitude?_eq_some_iff {x : Binary64} {k : Nat} :
    x.wholeMagnitude? = some k ↔ (x.significand : Rat) * (2 : Rat) ^ x.exponent = k := by
  obtain ⟨negative, m, e, hcanonical⟩ := x
  cases e with
  | ofNat e =>
      have hscaled : (m : Rat) * (2 : Rat) ^ Int.ofNat e = ((m * 2 ^ e : Nat) : Rat) := by
        simp
      rw [hscaled, Nat.cast_inj]
      exact Option.some_inj
  | negSucc e =>
      have hne : (2 : Rat) ^ (e + 1) ≠ 0 := pow_ne_zero _ two_ne_zero
      have hscaled : (m : Rat) * (2 : Rat) ^ Int.negSucc e = k ↔ m = k * 2 ^ (e + 1) := by
        rw [zpow_negSucc, ← div_eq_mul_inv, div_eq_iff hne]
        exact_mod_cast Iff.rfl
      have hsplit : wholeMagnitude? ⟨negative, m, Int.negSucc e, hcanonical⟩
          = if 2 ^ (e + 1) ∣ m then some (m / 2 ^ (e + 1)) else none := by
        simp only [wholeMagnitude?, Nat.dvd_iff_mod_eq_zero]
        rfl
      rw [hscaled, hsplit]
      constructor
      · intro h
        split at h
        · rename_i hdvd
          rw [← Option.some.inj h, Nat.div_mul_cancel hdvd]
        · contradiction
      · rintro rfl
        have hpos : 0 < 2 ^ (e + 1) := Nat.two_pow_pos (e + 1)
        rw [if_pos (Nat.dvd_mul_left _ k), Nat.mul_div_cancel k hpos]

theorem whole?_eq_map (x : Binary64) :
    x.whole? = x.wholeMagnitude?.map fun k : Nat => if x.negative then -(k : Int) else (k : Int) := by
  rw [whole?]
  cases x.wholeMagnitude? <;> rfl

/-- The integer that a double is read as is its exact value, and every double whose value is an
integer is read as one. -/
theorem whole?_eq_some_iff {x : Binary64} {i : Int} : x.whole? = some i ↔ x.value = i := by
  have hnonneg : 0 ≤ (x.significand : Rat) * (2 : Rat) ^ x.exponent := by positivity
  rw [whole?_eq_map, Option.map_eq_some_iff, value, mul_assoc]
  simp only [wholeMagnitude?_eq_some_iff]
  generalize (x.significand : Rat) * (2 : Rat) ^ x.exponent = magnitude at hnonneg ⊢
  cases x.negative with
  | false =>
      simp only [Bool.false_eq_true, if_false, one_mul]
      constructor
      · rintro ⟨k, rfl, rfl⟩
        rfl
      · rintro rfl
        obtain ⟨k, rfl⟩ := Int.eq_ofNat_of_zero_le (Int.cast_nonneg_iff.mp hnonneg)
        exact ⟨k, rfl, rfl⟩
  | true =>
      simp only [if_true, neg_one_mul]
      constructor
      · rintro ⟨k, rfl, rfl⟩
        simp
      · intro h
        have hmagnitude : magnitude = ((-i : Int) : Rat) := by
          rw [Int.cast_neg, ← h, neg_neg]
        rw [hmagnitude] at hnonneg
        obtain ⟨k, hk⟩ := Int.eq_ofNat_of_zero_le (Int.cast_nonneg_iff.mp hnonneg)
        refine ⟨k, ?_, by omega⟩
        rw [hmagnitude, hk]
        rfl

end Binary64

namespace Observation

open Json (Number)

theorem classifyWhole_eq (i : Int) :
    classifyWhole i = if -2 ^ 31 ≤ i ∧ i ≤ 2 ^ 31 - 1 then .int
      else if -2 ^ 63 ≤ i ∧ i ≤ 2 ^ 63 - 1 then .long else .double := by
  simp only [classifyWhole, Int.le_sub_one_iff]
  rfl

/-- The ranges of the three types leave no gap and do not overlap. -/
theorem classifyWhole_eq_iff (i : Int) :
    (classifyWhole i = .int ↔ -2 ^ 31 ≤ i ∧ i ≤ 2 ^ 31 - 1) ∧
      (classifyWhole i = .long ↔
        (-2 ^ 63 ≤ i ∧ i ≤ 2 ^ 63 - 1) ∧ ¬(-2 ^ 31 ≤ i ∧ i ≤ 2 ^ 31 - 1)) ∧
      (classifyWhole i = .double ↔ ¬(-2 ^ 63 ≤ i ∧ i ≤ 2 ^ 63 - 1)) := by
  rw [classifyWhole_eq]
  split_ifs <;> simp only [true_iff, false_iff] <;> omega

/-- A number whose value is an integer is typed as that integer, also if it is a double that no
signed 64-bit integer equals. -/
theorem classify_ofNumber_of_value {x : Number} {i : Int} (h : x.value = i) :
    classify (ofNumber x) = classifyWhole i := by
  cases x with
  | whole n fits =>
      have hn : n = i := Int.cast_injective h
      rw [← hn]
      rfl
  | binary x =>
      have hwhole : x.whole? = some i := Binary64.whole?_eq_some_iff.mpr h
      rw [ofNumber, hwhole]
      dsimp only
      split
      · rfl
      · rename_i hbeyond
        have hpow : (Nat.pow 2 63 : Int) = 2 ^ 63 := rfl
        rw [hpow] at hbeyond
        rw [classifyWhole_eq, if_neg (by omega), if_neg (by omega)]
        rfl

theorem classify_ofNumber_of_ne {x : Number} (h : ∀ i : Int, x.value ≠ i) :
    classify (ofNumber x) = .double := by
  cases x with
  | whole n fits => exact absurd rfl (h n)
  | binary x =>
      have hnone : x.whole? = none := by
        rw [Option.eq_none_iff_forall_ne_some]
        intro i hi
        exact h i (Binary64.whole?_eq_some_iff.mp hi)
      rw [ofNumber, hnone]
      rfl

/-- A number is an `int` or a `long` exactly if its value is an integer of that width, and otherwise
a `double`. So numbers of the same value are of the same type, whether they are carried as an
integer or as a double. -/
theorem classify_ofNumber_byValue (x : Number) :
    (classify (ofNumber x) = .int ↔
        ∃ i : Int, x.value = i ∧ -2 ^ 31 ≤ i ∧ i ≤ 2 ^ 31 - 1) ∧
      (classify (ofNumber x) = .long ↔
        ∃ i : Int, x.value = i ∧ (-2 ^ 63 ≤ i ∧ i ≤ 2 ^ 63 - 1) ∧
          ¬(-2 ^ 31 ≤ i ∧ i ≤ 2 ^ 31 - 1)) ∧
      (classify (ofNumber x) = .double ↔
        ¬∃ i : Int, x.value = i ∧ -2 ^ 63 ≤ i ∧ i ≤ 2 ^ 63 - 1) ∧
      ∀ y : Number, y.value = x.value → classify (ofNumber y) = classify (ofNumber x) := by
  by_cases hinteger : ∃ i : Int, x.value = i
  · obtain ⟨i, hi⟩ := hinteger
    have htype := classify_ofNumber_of_value hi
    have hthe : ∀ P : Int → Prop, (∃ j : Int, x.value = j ∧ P j) ↔ P i := by
      intro P
      simp [hi]
    obtain ⟨hint, hlong, hdouble⟩ := classifyWhole_eq_iff i
    rw [hthe, hthe, hthe, htype]
    exact ⟨hint, hlong, hdouble, fun y hy => classify_ofNumber_of_value (hy.trans hi)⟩
  · have hne : ∀ i : Int, x.value ≠ i := fun i hi => hinteger ⟨i, hi⟩
    have htype := classify_ofNumber_of_ne hne
    rw [htype]
    refine ⟨?_, ?_, ?_, fun y hy => classify_ofNumber_of_ne fun i hi => hne i (hy ▸ hi)⟩
    · simp [hne]
    · simp [hne]
    · simp [hne]

end Observation

end ClassInference
