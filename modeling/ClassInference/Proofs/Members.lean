import ClassInference.Declaration

/-!
# Member names

Members are settled one after the other under the accessors taken so far. A number is found for
every name because different numbers give different accessors, and it is the least one that is free.
So the members of a class have different accessors, and settling more members does not change the
ones before.
-/

namespace ClassInference

/-! ### Numbered names -/

theorem toDigits_ten_injective : Function.Injective (Nat.toDigits 10) := by
  intro m n h
  rw [← Nat.ofDigitChars_ten_toDigits (n := m), h, Nat.ofDigitChars_ten_toDigits]

theorem Text.exists_of_isDigit {c : Char} (h : c.isDigit = true) :
    ∃ k < 10, Char.ofNat (48 + k) = c := by
  have hrange : 48 ≤ c.toNat ∧ c.toNat ≤ 57 := by
    simpa [Char.isDigit, UInt32.le_iff_toNat_le] using h
  refine ⟨c.toNat - 48, by omega, ?_⟩
  rw [Nat.add_sub_cancel' hrange.1, Char.ofNat_toNat]

theorem Text.capitalForm_of_isDigit {c : Char} (h : c.isDigit = true) :
    Text.capitalForm c = [c] := by
  have hten : ∀ k < 10, Text.capitalForm (Char.ofNat (48 + k)) = [Char.ofNat (48 + k)] := by
    decide +kernel
  obtain ⟨k, hk, rfl⟩ := exists_of_isDigit h
  exact hten k hk

/-- Numerals have no other capital form, so that they stay also where they come first. -/
theorem Naming.capitalizeChars_append_toDigits (cs : List Char) (n : Nat) :
    capitalizeChars (cs ++ Nat.toDigits 10 n) = capitalizeChars cs ++ Nat.toDigits 10 n := by
  cases cs with
  | cons c cs => simp [capitalizeChars]
  | nil =>
      have hdigits : ∀ d ∈ Nat.toDigits 10 n, d.isDigit = true := fun d hd =>
        Nat.isDigit_of_mem_toDigits (by decide) (by decide) hd
      cases hd : Nat.toDigits 10 n with
      | nil => rfl
      | cons d ds =>
          have hfirst : Text.capitalForm d = [d] :=
            Text.capitalForm_of_isDigit (hdigits d (by simp [hd]))
          simp [capitalizeChars, hfirst]

namespace Declaration

theorem toList_suffixed (base : String) (n : Nat) :
    (suffixed base n).toList = base.toList ++ Nat.toDigits 10 n := by
  rw [suffixed, String.toList_append, Nat.toString_eq_repr, Nat.repr_eq_ofList_toDigits,
    String.toList_ofList]

/-- The number stays where it is when the first letter is made capital. -/
theorem capitalize_suffixed (base : String) (n : Nat) :
    Naming.capitalize (suffixed base n) = suffixed (Naming.capitalize base) n := by
  apply String.toList_inj.1
  calc (Naming.capitalize (suffixed base n)).toList
      = Naming.capitalizeChars (base.toList ++ Nat.toDigits 10 n) := by
        rw [Naming.capitalize, String.toList_ofList, toList_suffixed]
    _ = Naming.capitalizeChars base.toList ++ Nat.toDigits 10 n :=
        Naming.capitalizeChars_append_toDigits base.toList n
    _ = (suffixed (Naming.capitalize base) n).toList := by
        rw [toList_suffixed, Naming.capitalize, String.toList_ofList]

theorem capitalize_suffixed_injective (base : String) :
    Function.Injective fun n => Naming.capitalize (suffixed base n) := by
  intro m n h
  have hcs : (Naming.capitalize base).toList ++ Nat.toDigits 10 m
      = (Naming.capitalize base).toList ++ Nat.toDigits 10 n := by
    simpa only [capitalize_suffixed, toList_suffixed] using congrArg String.toList h
  exact toDigits_ten_injective (List.append_cancel_left hcs)

theorem freeSuffix_spec (taken : List String) (base : String) (n : Nat) :
    n ≤ freeSuffix taken base n ∧
      Naming.capitalize (suffixed base (freeSuffix taken base n)) ∉ taken := by
  fun_induction freeSuffix taken base n with
  | case1 taken n accessor h _ ih =>
      obtain ⟨hle, hfree⟩ := ih
      refine ⟨by omega, ?_⟩
      -- the accessor left out of account belongs to a smaller number
      have hne : Naming.capitalize (suffixed base (freeSuffix (taken.erase accessor) base (n + 1)))
          ≠ accessor := by
        intro he
        have := capitalize_suffixed_injective base he
        omega
      intro hmem
      exact hfree ((List.mem_erase_of_ne hne).2 hmem)
  | case2 taken n accessor h => exact ⟨Nat.le_refl n, h⟩

/-- The smaller numbers were not free. -/
theorem freeSuffix_least (taken : List String) (base : String) (n : Nat) :
    ∀ k, n ≤ k → k < freeSuffix taken base n → Naming.capitalize (suffixed base k) ∈ taken := by
  fun_induction freeSuffix taken base n with
  | case1 taken n accessor h _ ih =>
      intro k hn hk
      by_cases hkn : k = n
      · rwa [hkn]
      · exact List.mem_of_mem_erase (ih k (by omega) hk)
  | case2 taken n accessor h =>
      intro k hn hk
      omega

/-! ### Settled members -/

/-- The name that a member gets for the one it asks for, where some accessors are taken: that name
or, if its own accessor is taken, that name with the least number from two on whose accessor is
not. -/
inductive Settles (taken : List String) (wanted : String) : String → Prop where
  | kept (hfree : Naming.capitalize wanted ∉ taken) : Settles taken wanted wanted
  | numbered (n : Nat) (htaken : Naming.capitalize wanted ∈ taken) (hn : 2 ≤ n)
      (hfree : Naming.capitalize (suffixed wanted n) ∉ taken)
      (hleast : ∀ k, 2 ≤ k → k < n → Naming.capitalize (suffixed wanted k) ∈ taken) :
      Settles taken wanted (suffixed wanted n)

theorem settles_settle (taken : List String) (f : FieldDecl) :
    Settles taken f.name (settle taken f).name := by
  unfold settle
  split
  · rename_i htaken
    obtain ⟨hn, hfree⟩ := freeSuffix_spec taken f.name 2
    exact .numbered _ htaken hn hfree (freeSuffix_least taken f.name 2)
  · rename_i hfree
    exact .kept hfree

/-- It does not matter in which order the accessors were taken. -/
theorem Settles.congr {taken others : List String} {wanted name : String}
    (h : ∀ accessor, accessor ∈ taken ↔ accessor ∈ others) (hs : Settles taken wanted name) :
    Settles others wanted name := by
  cases hs with
  | kept hfree => exact .kept (mt (h _).2 hfree)
  | numbered n htaken hn hfree hleast =>
      have hbelow : ∀ k, 2 ≤ k → k < n → Naming.capitalize (suffixed wanted k) ∈ others :=
        fun k hk hkn => (h _).1 (hleast k hk hkn)
      exact .numbered n ((h _).1 htaken) hn (mt (h _).2 hfree) hbelow

theorem accessor_settle_not_mem (taken : List String) (f : FieldDecl) :
    (settle taken f).accessor ∉ taken := by
  unfold settle
  split
  · exact (freeSuffix_spec taken f.name 2).2
  · assumption

/-- The accessors of members. -/
def accessors (members : List FieldDecl) : List String := members.map (·.accessor)

variable (d : Dialect)

@[simp] theorem length_uniqueMembers (taken : List String) (fields : List Field) :
    (uniqueMembers d taken fields).length = fields.length := by
  induction fields generalizing taken with
  | nil => rfl
  | cons f rest ih => simp [uniqueMembers, ih]

theorem wireName_settle (taken : List String) (f : FieldDecl) :
    (settle taken f).wireName = f.wireName := by
  unfold settle
  split <;> rfl

/-- What settling leaves as it is, the members have from their fields. -/
theorem map_uniqueMembers {α : Type} (p : FieldDecl → α) (hp : ∀ taken f, p (settle taken f) = p f)
    (taken : List String) (fields : List Field) :
    (uniqueMembers d taken fields).map p = fields.map fun f => p (f.declare d) := by
  induction fields generalizing taken with
  | nil => rfl
  | cons f rest ih => rw [uniqueMembers, List.map_cons, ih, hp, List.map_cons]

theorem map_wireName_uniqueMembers (taken : List String) (fields : List Field) :
    (uniqueMembers d taken fields).map (·.wireName) = fields.map (·.wireName) :=
  map_uniqueMembers d (·.wireName) wireName_settle taken fields

theorem exists_settle_of_mem {taken : List String} {fields : List Field} {m : FieldDecl}
    (hm : m ∈ uniqueMembers d taken fields) :
    ∃ f ∈ fields, ∃ others, m = settle others (f.declare d) := by
  induction fields generalizing taken with
  | nil => simp [uniqueMembers] at hm
  | cons f rest ih =>
      rcases List.mem_cons.1 hm with rfl | hm
      · exact ⟨f, List.mem_cons_self, taken, rfl⟩
      · obtain ⟨f', hf', others, he⟩ := ih hm
        exact ⟨f', List.mem_cons_of_mem f hf', others, he⟩

/-- Members settled after others are settled under the accessors of those, too. -/
theorem uniqueMembers_append (taken : List String) (fields more : List Field) :
    uniqueMembers d taken (fields ++ more)
      = uniqueMembers d taken fields
        ++ uniqueMembers d ((accessors (uniqueMembers d taken fields)).reverse ++ taken) more := by
  induction fields generalizing taken with
  | nil => rfl
  | cons f rest ih => simp [uniqueMembers, accessors, ih]

theorem take_uniqueMembers (taken : List String) (fields : List Field) (i : Nat) :
    (uniqueMembers d taken fields).take i = uniqueMembers d taken (fields.take i) := by
  induction fields generalizing taken i with
  | nil => simp [uniqueMembers]
  | cons f rest ih =>
      cases i with
      | zero => rfl
      | succ i => rw [uniqueMembers, List.take_succ_cons, ih, List.take_succ_cons, uniqueMembers]

/-- A member is settled under the accessors of those before it. -/
theorem getElem?_uniqueMembers (taken : List String) (fields : List Field) (i : Nat) :
    (uniqueMembers d taken fields)[i]?
      = fields[i]?.map fun f =>
          settle ((accessors (uniqueMembers d taken (fields.take i))).reverse ++ taken)
            (f.declare d) := by
  induction fields generalizing taken i with
  | nil => simp [uniqueMembers]
  | cons f rest ih =>
      cases i with
      | zero => simp [uniqueMembers, accessors]
      | succ i => simp [uniqueMembers, accessors, ih]

theorem accessors_uniqueMembers (taken : List String) (fields : List Field) :
    (accessors (uniqueMembers d taken fields)).Nodup ∧
      ∀ accessor ∈ accessors (uniqueMembers d taken fields), accessor ∉ taken := by
  induction fields generalizing taken with
  | nil => simp [uniqueMembers, accessors]
  | cons f rest ih =>
      obtain ⟨hnodup, hfree⟩ := ih ((settle taken (f.declare d)).accessor :: taken)
      rw [uniqueMembers, accessors, List.map_cons, List.nodup_cons]
      refine ⟨⟨?_, hnodup⟩, ?_⟩
      · intro hmem
        exact hfree _ hmem List.mem_cons_self
      · intro accessor hmem
        rcases List.mem_cons.1 hmem with rfl | hmem
        · exact accessor_settle_not_mem taken _
        · exact fun htaken => hfree accessor hmem (List.mem_cons_of_mem _ htaken)

end Declaration

end ClassInference
