import ClassInference.Naming
import ClassInference.TypeRef

/-!
# Names of nested types

The name for a type that is nested under a key begins with a capital form, which is never a small
letter of ASCII. So no key names a primitive, whose spellings all begin with one.
-/

namespace ClassInference

namespace Text

/-- The code points of the small letters of ASCII. -/
def isPlainSmall (code : Nat) : Bool := 97 ≤ code && code ≤ 122

theorem mem_of_lookup {expansions : List (Nat × List Nat)} {code : Nat} {codes : List Nat}
    (h : expansions.lookup code = some codes) : (code, codes) ∈ expansions := by
  obtain ⟨before, after, hsplit, -⟩ := List.lookup_eq_some_iff.1 h
  rw [hsplit]
  exact List.mem_append_right before List.mem_cons_self

theorem exists_head?_capitalExpansions : ∀ e ∈ capitalExpansions,
    ∃ first ∈ (e.2.map Char.ofNat).head?, isPlainSmall first.toNat = false := by
  have hall : capitalExpansions.all (fun e =>
      (e.2.map Char.ofNat).head?.any (!isPlainSmall ·.toNat)) = true := by
    decide +kernel
  intro e he
  obtain ⟨first, hfirst, hsmall⟩ :=
    (Option.any_eq_true _ _).1 (List.all_eq_true.1 hall e he)
  exact ⟨first, hfirst, by simpa using hsmall⟩

/-- No run of capital shifts leads to a small letter of ASCII. -/
theorem capitalShifts_avoid : ∀ s ∈ capitalShifts,
    (s.run.last : Int) + s.shift < 97 ∨ 122 < (s.run.first : Int) + s.shift := by
  have hall : capitalShifts.all (fun s =>
      decide ((s.run.last : Int) + s.shift < 97 ∨ 122 < (s.run.first : Int) + s.shift)) = true := by
    decide +kernel
  intro s hs
  exact of_decide_eq_true (List.all_eq_true.1 hall s hs)

theorem not_isPlainSmall_shiftCapital_of_lt : ∀ k < 26,
    isPlainSmall (CaseShift.apply capitalShifts (Char.ofNat (97 + k))).toNat = false := by
  decide +kernel

/-- A number that is no code point makes the null character. -/
theorem toNat_ofNat_or (code : Nat) :
    (Char.ofNat code).toNat = code ∨ Char.ofNat code = Char.ofNat 0 := by
  by_cases hvalid : code.isValidChar
  · left
    rw [Char.ofNat, dif_pos hvalid]
    rfl
  · right
    rw [Char.ofNat, dif_neg hvalid]
    rfl

theorem isPlainSmall_ofNat {code : Nat} (h : isPlainSmall code = false) :
    isPlainSmall (Char.ofNat code).toNat = false := by
  rcases toNat_ofNat_or code with hcode | hnull
  · rw [hcode, h]
  · rw [hnull]
    decide

theorem not_isPlainSmall_shiftCapital (c : Char) :
    isPlainSmall (CaseShift.apply capitalShifts c).toNat = false := by
  by_cases hc : isPlainSmall c.toNat = true
  · -- the small letters have a run of their own
    have hrange : 97 ≤ c.toNat ∧ c.toNat ≤ 122 := by simpa [isPlainSmall] using hc
    have hk := not_isPlainSmall_shiftCapital_of_lt (c.toNat - 97) (by omega)
    rwa [Nat.add_sub_cancel' hrange.1, Char.ofNat_toNat] at hk
  · rcases CaseShift.apply_cases capitalShifts c with hsame | ⟨s, hs, hcontains, hshift⟩
    · rw [hsame]
      simpa using hc
    · have havoid := capitalShifts_avoid s hs
      obtain ⟨hrun, -⟩ := CodeRun.contains_iff.1 hcontains
      rw [hshift]
      apply isPlainSmall_ofNat
      have hnot : ¬ (97 ≤ ((c.toNat : Int) + s.shift).toNat
          ∧ ((c.toNat : Int) + s.shift).toNat ≤ 122) := by
        omega
      simpa [isPlainSmall] using hnot

/-- A capital form begins with something else than a small letter of ASCII. -/
theorem exists_head?_capitalForm (c : Char) :
    ∃ first ∈ (capitalForm c).head?, isPlainSmall first.toNat = false := by
  rw [capitalForm_eq]
  cases hcodes : capitalExpansions.lookup c.toNat with
  | none => exact ⟨_, rfl, not_isPlainSmall_shiftCapital c⟩
  | some codes =>
      exact exists_head?_capitalExpansions _ (mem_of_lookup hcodes)

end Text

namespace Naming

open Text

/-- The name for a type begins with something else than a small letter of ASCII. -/
theorem exists_head?_camelCase_capitalizeChars (key : List Char) :
    ∃ first ∈ (camelCase capitalizeChars key).head?, isPlainSmall first.toNat = false := by
  unfold camelCase
  split
  · exact ⟨'_', rfl, by decide⟩
  · rename_i w ws hwords
    have hw : w ∈ words key := hwords ▸ List.mem_cons_self
    have hne : w ≠ [] := by
      rintro rfl
      simp [words] at hw
    obtain ⟨c, cs, rfl⟩ := List.exists_cons_of_ne_nil hne
    obtain ⟨first, hfirst, hplain⟩ := exists_head?_capitalForm c
    obtain ⟨rest, hform⟩ := List.head?_eq_some_iff.1 hfirst
    rw [capitalizeChars, hform, List.cons_append, List.cons_append, guardNumeral]
    split
    · exact ⟨'_', rfl, by decide⟩
    · exact ⟨first, rfl, hplain⟩

/-- A name that begins with a small letter of ASCII is not the name for a type. -/
theorem typeName_ne_of_head? {name : String} {first : Char} (hname : name.toList.head? = some first)
    (hplain : isPlainSmall first.toNat = true) (key : String) : typeName key ≠ name := by
  obtain ⟨first', hfirst', hplain'⟩ := exists_head?_camelCase_capitalizeChars key.toList
  rintro rfl
  rw [typeName, String.toList_ofList, Option.mem_def.1 hfirst', Option.some.injEq] at hname
  rw [hname, hplain] at hplain'
  exact Bool.noConfusion hplain'

/-- No key names a primitive. -/
theorem ofName?_typeName (key : String) : Primitive.ofName? (typeName key) = none := by
  rw [Primitive.ofName?, List.find?_eq_none]
  intro p _
  rw [beq_iff_eq]
  cases p <;> exact (typeName_ne_of_head? rfl (by decide) key).symm

end Naming

end ClassInference
