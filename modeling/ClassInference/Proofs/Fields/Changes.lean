import ClassInference.Field
import ClassInference.Proofs.CommonType

/-!
# Changes of a field

Four operations change a field: it takes note of a value, takes in another field, is given a name,
or is mapped to another type. They come in any order and any number, and the field keeps its keys,
its list mark, its nested type and its observations through all of them. A mapped type gives way
only to a mapping that starts from it: of all later changes nothing else counts for the type.
-/

namespace ClassInference

namespace Field

/-! ### Mapping -/

section Retype

variable (f : Field) (source target : TypeRef) (asArray : Bool)

theorem wireName_retype : (f.retype source target asArray).wireName = f.wireName := by
  unfold retype retype?
  split <;> rfl

theorem observed_retype : (f.retype source target asArray).observed = f.observed := by
  unfold retype retype?
  split <;> rfl

theorem override_retype : (f.retype source target asArray).override = f.override := by
  unfold retype retype?
  split <;> rfl

theorem typeRef_retype :
    (f.retype source target asArray).typeRef
      = if f.typeRef = source then target else f.typeRef := by
  unfold retype retype?
  split <;> rfl

theorem isArray_retype :
    (f.retype source target asArray).isArray
      = (f.isArray || f.typeRef = source && asArray) := by
  unfold retype retype?
  split <;> simp [*]

end Retype

/-! ### Changes -/

inductive Change where
  | observe (v : Json.Value) (nested : String)
  | merge (other : Field)
  | setOverride (name : String)
  | retype (source target : TypeRef) (asArray : Bool)

/-- Carry out a change. A mapping from another type than that of the field changes nothing. -/
def apply (f : Field) : Change → Field
  | .observe v nested => f.observe v nested
  | .merge other => f.merge other
  | .setOverride name => f.setOverride name
  | .retype source target asArray => f.retype source target asArray

def applyAll (f : Field) (changes : List Change) : Field := changes.foldl apply f

/-- The type of a mapped field after a change. -/
def Change.retarget (t : TypeRef) : Change → TypeRef
  | .retype source target _ => if t = source then target else t
  | .observe _ _ | .merge _ | .setOverride _ => t

variable {f f' f'' : Field}

/-! ### What stays -/

/-- What a later state `f'` of a field still has of `f`. -/
structure MovesUp (f f' : Field) : Prop where
  wireName : f'.wireName = f.wireName
  defaultName : f'.defaultName = f.defaultName
  isArray : f.isArray = true → f'.isArray = true
  mapped : f.mapped.isSome = true → f'.mapped.isSome = true
  nested : ∀ n, f.nested = some n → f'.nested = some n
  observed : f.observed <+: f'.observed

theorem MovesUp.refl (f : Field) : f.MovesUp f :=
  ⟨rfl, rfl, id, id, fun _ => id, List.prefix_rfl⟩

theorem MovesUp.trans (h : f.MovesUp f') (h' : f'.MovesUp f'') : f.MovesUp f'' where
  wireName := h'.wireName.trans h.wireName
  defaultName := h'.defaultName.trans h.defaultName
  isArray ha := h'.isArray (h.isArray ha)
  mapped hm := h'.mapped (h.mapped hm)
  nested n hn := h'.nested n (h.nested n hn)
  observed := h.observed.trans h'.observed

/-- The type inferred later is no lower. -/
theorem MovesUp.inferred_le (h : f.MovesUp f') : f.inferred ≤ f'.inferred := by
  obtain ⟨later, hlater⟩ := h.observed
  calc f.inferred
      ≤ Observation.infer later f.inferred := Observation.le_infer later f.inferred
    _ = Observation.infer (f.observed ++ later) none :=
        (Observation.infer_append f.observed later none).symm
    _ = f'.inferred := by rw [hlater, inferred]

theorem movesUp_retype (f : Field) (source target : TypeRef) (asArray : Bool) :
    f.MovesUp (f.retype source target asArray) := by
  unfold retype retype?
  split
  · refine ⟨rfl, rfl, ?_, fun _ => rfl, fun _ => id, List.prefix_rfl⟩
    intro ha
    simp [ha]
  · exact .refl f

theorem movesUp_apply (f : Field) (c : Change) : f.MovesUp (f.apply c) := by
  cases c with
  | observe v nested =>
      refine ⟨rfl, rfl, ?_, id, ?_, List.prefix_append _ _⟩
      · intro ha
        simp [apply, observe, ha]
      · intro n hn
        simp [apply, observe, hn]
  | merge other =>
      refine ⟨rfl, rfl, ?_, ?_, ?_, List.prefix_append _ _⟩
      · intro ha
        simp [apply, merge, ha]
      · intro hm
        simp [apply, merge, hm]
      · intro n hn
        simp [apply, merge, hn]
  | setOverride name => exact ⟨rfl, rfl, id, id, fun _ => id, List.prefix_rfl⟩
  | retype source target asArray => exact f.movesUp_retype source target asArray

theorem movesUp_applyAll (f : Field) (changes : List Change) :
    f.MovesUp (f.applyAll changes) := by
  induction changes generalizing f with
  | nil => exact .refl f
  | cons c changes ih => exact (f.movesUp_apply c).trans (ih (f.apply c))

/-! ### The type of a mapped field -/

theorem typeRef_eq_of_mapped (hm : f.mapped.isSome = true) (h : f'.mapped = f.mapped) :
    f'.typeRef = f.typeRef := by
  obtain ⟨t, ht⟩ := Option.isSome_iff_exists.mp hm
  rw [typeRef, typeRef, h, ht]

theorem typeRef_apply_of_mapped (hm : f.mapped.isSome = true) (c : Change) :
    (f.apply c).typeRef = c.retarget f.typeRef := by
  cases c with
  | observe v nested => exact typeRef_eq_of_mapped hm rfl
  | merge other =>
      apply typeRef_eq_of_mapped hm
      obtain ⟨t, ht⟩ := Option.isSome_iff_exists.mp hm
      simp [apply, merge, ht]
  | setOverride name => exact typeRef_eq_of_mapped hm rfl
  | retype source target asArray => exact f.typeRef_retype source target asArray

/-- Of the changes of a mapped field, the mappings that start from its type make up its type. -/
theorem typeRef_applyAll_of_mapped (hm : f.mapped.isSome = true) (changes : List Change) :
    (f.applyAll changes).typeRef = changes.foldl Change.retarget f.typeRef := by
  induction changes generalizing f with
  | nil => rfl
  | cons c changes ih =>
      have hm' : (f.apply c).mapped.isSome = true := (f.movesUp_apply c).mapped hm
      have hfirst := typeRef_apply_of_mapped hm c
      rw [List.foldl_cons, ← hfirst]
      exact ih hm'

theorem Change.eq_retype_of_retarget_ne {c : Change} {t : TypeRef} (h : c.retarget t ≠ t) :
    ∃ target asArray, c = .retype t target asArray := by
  cases c with
  | retype source target asArray =>
      by_cases hsource : t = source
      · exact ⟨target, asArray, by rw [hsource]⟩
      · exact absurd (if_neg hsource) h
  | _ => exact absurd rfl h

/-! ### Along all changes -/

/-- What no changes in whatever order take back, and what they make of the type: it is named by the
nested type until the field is mapped, and then it changes by mappings that start from it alone. -/
structure OnlyMovesUp (f : Field) (changes : List Change) : Prop
    extends MovesUp f (f.applyAll changes) where
  inferred : f.inferred ≤ (f.applyAll changes).inferred
  typeRef_of_nested : ∀ n, f.nested = some n → (f.applyAll changes).mapped = none →
    (f.applyAll changes).typeRef = .named n
  typeRef_of_mapped : f.mapped.isSome = true →
    (f.applyAll changes).typeRef = changes.foldl Change.retarget f.typeRef
  retypes : ∀ done c, done ++ [c] <+: changes → (f.applyAll done).mapped.isSome = true →
    (f.applyAll (done ++ [c])).typeRef ≠ (f.applyAll done).typeRef →
      ∃ target asArray, c = .retype (f.applyAll done).typeRef target asArray

/-- Whatever changes a field goes through, and in whatever order, its state only moves up. -/
theorem onlyMovesUp_applyAll (f : Field) (changes : List Change) :
    f.OnlyMovesUp changes where
  toMovesUp := f.movesUp_applyAll changes
  inferred := (f.movesUp_applyAll changes).inferred_le
  typeRef_of_nested n hn hm := by
    have hkept : (f.applyAll changes).nested = some n := (f.movesUp_applyAll changes).nested n hn
    rw [typeRef, hm, hkept]
  typeRef_of_mapped hm := typeRef_applyAll_of_mapped hm changes
  retypes done c _ hm hchanged := by
    have hnext : f.applyAll (done ++ [c]) = (f.applyAll done).apply c := by
      simp [applyAll]
    rw [hnext, typeRef_apply_of_mapped hm c] at hchanged
    exact Change.eq_retype_of_retarget_ne hchanged

end Field

end ClassInference
