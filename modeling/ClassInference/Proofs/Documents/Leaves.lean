import ClassInference.Proofs.NumberTypes
import Mathlib.Data.List.Forall2

/-!
# What is found in a value

The primitive leaves of a value and the objects in it, arrays looked through at any depth. The
observations that are made of a value are its leaves, and the objects that are listed of it are
those found in it.
-/

namespace ClassInference

namespace Observation

open Json (Number Value)

/-- What is observed of a primitive value. A double is observed as the integer that it equals,
unless that is beyond 2 ^ 63. -/
inductive Observes : Value → Observation → Prop
  | bool (b : Bool) : Observes (.bool b) (.bool b)
  | string (s : String) : Observes (.string s) (.text s)
  | whole (i : Int) (fits : Number.Fits i) :
      Observes (.number (.whole i fits)) (.whole i)
  | integral {x : Binary64} {i : Int} (hvalue : x.value = i) (hrange : -2 ^ 63 ≤ i ∧ i ≤ 2 ^ 63) :
      Observes (.number (.binary x)) (.whole i)
  | fraction {x : Binary64} (h : ∀ i : Int, -2 ^ 63 ≤ i ∧ i ≤ 2 ^ 63 → x.value ≠ i) :
      Observes (.number (.binary x)) (.fraction x)

/-- The observations are those of the primitive leaves of the value, in order. -/
inductive HasLeaves : Value → List Observation → Prop
  | primitive {v : Value} {o : Observation} (h : Observes v o) : HasLeaves v [o]
  | null : HasLeaves .null []
  | object (members : List (String × Value)) : HasLeaves (.object members) []
  | nil : HasLeaves (.array []) []
  | cons {v : Value} {vs : List Value} {os ps : List Observation} (hv : HasLeaves v os)
      (hvs : HasLeaves (.array vs) ps) : HasLeaves (.array (v :: vs)) (os ++ ps)

/-- The second value is the first one or found in it, arrays looked through. -/
inductive Holds : Value → Value → Prop
  | self (v : Value) : Holds v v
  | item {items : List Value} {item v : Value} (hitem : item ∈ items) (h : Holds item v) :
      Holds (.array items) v

variable {v : Value} {o : Observation} {os : List Observation} {vs : List Value}

/-! ### Leaves -/

theorem observes_ofNumber : ∀ x : Number, Observes (.number x) (ofNumber x)
  | .whole i fits => .whole i fits
  | .binary x => by
      cases hwhole : x.whole? with
      | some i =>
          have hvalue : x.value = i := Binary64.whole?_eq_some_iff.1 hwhole
          rw [ofNumber, hwhole]
          dsimp only
          split
          · rename_i hrange
            exact .integral hvalue hrange
          · rename_i hbeyond
            apply Observes.fraction
            intro j hj hne
            obtain rfl : i = j := Int.cast_injective (hvalue.symm.trans hne)
            exact hbeyond hj
      | none =>
          rw [ofNumber, hwhole]
          apply Observes.fraction
          intro j _ hvalue
          rw [Binary64.whole?_eq_some_iff.2 hvalue] at hwhole
          contradiction

/-- No other observation is made of the number. -/
theorem Observes.eq_ofNumber {x : Number} (h : Observes (.number x) o) : o = ofNumber x := by
  cases h with
  | whole i fits => rfl
  | integral hvalue hrange =>
      rw [ofNumber, Binary64.whole?_eq_some_iff.2 hvalue]
      exact (if_pos hrange).symm
  | @fraction x hne =>
      rw [ofNumber]
      cases hwhole : x.whole? with
      | some i =>
          have hvalue : x.value = i := Binary64.whole?_eq_some_iff.1 hwhole
          exact (if_neg fun hrange => hne i hrange hvalue).symm
      | none => rfl

theorem ofValue?_eq_some_iff : ofValue? v = some o ↔ Observes v o := by
  constructor
  · intro h
    cases v with
    | null | array _ | object _ => contradiction
    | bool b =>
        obtain rfl := Option.some.inj h
        exact .bool b
    | number x =>
        obtain rfl := Option.some.inj h
        exact observes_ofNumber x
    | string s =>
        obtain rfl := Option.some.inj h
        exact .string s
  · intro h
    cases v with
    | null | array _ | object _ => cases h
    | bool b =>
        cases h
        rfl
    | number x => rw [h.eq_ofNumber, ofValue?]
    | string s =>
        cases h
        rfl

mutual

theorem hasLeaves_leaves : ∀ v : Value, HasLeaves v (leaves v)
  | .null => .null
  | .bool b => .primitive (.bool b)
  | .number x => .primitive (observes_ofNumber x)
  | .string s => .primitive (.string s)
  | .array items => hasLeaves_leavesOfItems items
  | .object members => .object members

theorem hasLeaves_leavesOfItems :
    ∀ items : List Value, HasLeaves (.array items) (leavesOfItems items)
  | [] => .nil
  | v :: vs => .cons (hasLeaves_leaves v) (hasLeaves_leavesOfItems vs)

end

/-- The observations that are gathered of a value are those of its leaves. -/
theorem hasLeaves_iff : HasLeaves v os ↔ os = leaves v := by
  constructor
  · intro h
    induction h with
    | primitive h =>
        have hvalue := ofValue?_eq_some_iff.2 h
        cases h <;> exact (congrArg Option.toList hvalue).symm
    | null | object _ | nil => rfl
    | cons _ _ hv hvs => exact congrArg₂ (· ++ ·) hv hvs
  · rintro rfl
    exact hasLeaves_leaves v

theorem forall₂_hasLeaves_iff {oss : List (List Observation)} :
    List.Forall₂ HasLeaves vs oss ↔ oss = vs.map leaves := by
  induction vs generalizing oss with
  | nil => exact List.forall₂_nil_left_iff
  | cons v vs ih =>
      simp only [List.forall₂_cons_left_iff, hasLeaves_iff, ih, exists_and_left, exists_eq_left]
      rfl

/-! ### Objects -/

mutual

theorem mem_objects_iff {members : List (String × Value)} :
    ∀ v : Value, members ∈ objects v ↔ Holds v (.object members)
  | .null | .bool _ | .number _ | .string _ => by
      constructor
      · exact fun h => absurd h List.not_mem_nil
      · exact fun h => nomatch h
  | .array items => by
      rw [objects, mem_objectsOfItems_iff items]
      constructor
      · exact fun ⟨_, hitem, h⟩ => .item hitem h
      · rintro (_ | ⟨hitem, h⟩)
        exact ⟨_, hitem, h⟩
  | .object members' => by
      rw [objects, List.mem_singleton]
      constructor
      · rintro rfl
        exact .self _
      · intro h
        cases h
        rfl

theorem mem_objectsOfItems_iff {members : List (String × Value)} : ∀ items : List Value,
    members ∈ objectsOfItems items ↔ ∃ item ∈ items, Holds item (.object members)
  | [] => by simp [objectsOfItems]
  | v :: vs => by
      rw [objectsOfItems, List.mem_append, mem_objects_iff v, mem_objectsOfItems_iff vs,
        List.exists_mem_cons_iff]

end

theorem objects_ne_nil_iff : objects v ≠ [] ↔ ∃ members, Holds v (.object members) := by
  rw [ne_eq, List.eq_nil_iff_forall_not_mem, not_forall_not]
  exact exists_congr fun _ => mem_objects_iff v

theorem isArray_iff : isArray v = true ↔ ∃ items, v = .array items := by
  cases v <;> simp [isArray]

end Observation

end ClassInference
