import ClassInference.Dialect.Presets
import ClassInference.Proofs.Members
import ClassInference.Proofs.Sources.Templates

/-!
# Names of members

What the members of a class are called: each one keeps the name of its field or gets the least
number that sets it apart from those before it. The numbers do not lead back to a reserved word,
since the words that the preset dialects reserve are made of letters.
-/

namespace ClassInference

namespace Dialect

variable {d : Dialect} {name : String}

theorem isAlpha_of_isKeyword (hd : d = .java ∨ d = .csharp) (h : d.isKeyword name = true) :
    ∀ c ∈ name.toList, c.isAlpha = true := by
  have hwords : ∀ w ∈ d.keywords, w.toList.all Char.isAlpha = true := by
    rcases hd with rfl | rfl <;> decide +kernel
  have hname : name ∈ d.keywords := List.contains_iff_mem.1 h
  exact List.all_eq_true.1 (hwords name hname)

theorem isKeyword_eq_false (hd : d = .java ∨ d = .csharp) {c : Char} (hc : c ∈ name.toList)
    (halpha : c.isAlpha = false) : d.isKeyword name = false := by
  rw [← Bool.not_eq_true]
  intro h
  rw [isAlpha_of_isKeyword hd h c hc] at halpha
  contradiction

theorem toList_fill_keywordEscape_java (name : String) :
    (fill java.keywordEscape [("name", name)]).toList = [] ++ name.toList ++ ['_'] :=
  Template.fill_of_slot (by decide) (by decide) (by decide) (by decide) (by decide)

theorem toList_fill_keywordEscape_csharp (name : String) :
    (fill csharp.keywordEscape [("name", name)]).toList = ['@'] ++ name.toList ++ [] :=
  Template.fill_of_slot (by decide) (by decide) (by decide) (by decide) (by decide)

theorem isKeyword_identifier (hd : d = .java ∨ d = .csharp) (name : String) :
    d.isKeyword (d.identifier name) = false := by
  unfold identifier
  split
  · have hmark : '_' ∈ (fill d.keywordEscape [("name", name)]).toList ∨
        '@' ∈ (fill d.keywordEscape [("name", name)]).toList := by
      rcases hd with rfl | rfl
      · simp [toList_fill_keywordEscape_java]
      · simp [toList_fill_keywordEscape_csharp]
    rcases hmark with h | h <;> exact isKeyword_eq_false hd h (by decide)
  · rwa [← Bool.not_eq_true]

end Dialect

namespace Declaration

variable {d : Dialect}

theorem isKeyword_suffixed (hd : d = .java ∨ d = .csharp) (base : String) (n : Nat) :
    d.isKeyword (suffixed base n) = false := by
  obtain ⟨c, hc⟩ := List.exists_mem_of_ne_nil (Nat.toDigits 10 n) Nat.toDigits_ne_nil
  have hmem : c ∈ (suffixed base n).toList := by
    rw [toList_suffixed]
    exact List.mem_append_right _ hc
  apply Dialect.isKeyword_eq_false hd hmem
  have hten : ∀ k < 10, (Char.ofNat (48 + k)).isAlpha = false := by decide
  obtain ⟨k, hk, rfl⟩ :=
    Text.exists_of_isDigit (Nat.isDigit_of_mem_toDigits (by decide) (by decide) hc)
  exact hten k hk

theorem Settles.isKeyword_eq_false (hd : d = .java ∨ d = .csharp) {taken : List String}
    {wanted name : String} (hs : Settles taken wanted name) (hw : d.isKeyword wanted = false) :
    d.isKeyword name = false := by
  cases hs with
  | kept => exact hw
  | numbered n => exact isKeyword_suffixed hd wanted n

theorem annotated_settle (taken : List String) (f : Field) :
    (settle taken (f.declare d)).name ≠ f.wireName →
      (settle taken (f.declare d)).annotated = true := by
  unfold settle
  split
  · exact fun _ => rfl
  · exact bne_iff_ne.2

/-- The members stand for the fields in order, under names that a class can have side by side. -/
structure NamesApart (d : Dialect) (fields : List Field) (members : List FieldDecl) : Prop where
  wireNames : members.map (·.wireName) = fields.map (·.wireName)
  types : members.map (·.type) = fields.map fun f => d.spellType f.typeRef f.isArray
  accessors : (accessors members).Nodup
  settles : ∀ (i : Nat) f m, fields[i]? = some f → members[i]? = some m →
    Settles (Declaration.accessors (members.take i)) (d.identifier f.name) m.name
  earlier : ∀ earlier, earlier <+: fields → uniqueMembers d [] earlier <+: members
  annotated : ∀ m ∈ members, m.name ≠ m.wireName → m.annotated = true
  unreserved : d = .java ∨ d = .csharp → ∀ m ∈ members, d.isKeyword m.name = false

/-- The members of a class keep the names of their fields, or get the least numbers that set them
apart. -/
theorem namesApart_uniqueMembers (d : Dialect) (fields : List Field) :
    NamesApart d fields (uniqueMembers d [] fields) := by
  constructor
  case wireNames => exact map_wireName_uniqueMembers d [] fields
  case types =>
    have htype : ∀ taken f, (settle taken f).type = f.type := by
      intro taken f
      unfold settle
      split <;> rfl
    exact map_uniqueMembers d (·.type) htype [] fields
  case accessors => exact (accessors_uniqueMembers d [] fields).1
  case settles =>
    intro i f m hf hm
    rw [getElem?_uniqueMembers, hf, Option.map_some, Option.some.injEq] at hm
    rw [take_uniqueMembers, ← hm]
    apply (settles_settle _ (f.declare d)).congr
    simp
  case earlier =>
    rintro earlier ⟨more, rfl⟩
    rw [uniqueMembers_append]
    exact List.prefix_append _ _
  case annotated =>
    intro m hm
    obtain ⟨f, -, taken, rfl⟩ := exists_settle_of_mem d hm
    rw [wireName_settle]
    exact annotated_settle taken f
  case unreserved =>
    intro hd m hm
    obtain ⟨f, -, taken, rfl⟩ := exists_settle_of_mem d hm
    exact (settles_settle taken (f.declare d)).isKeyword_eq_false hd
      (Dialect.isKeyword_identifier hd f.name)

/-- The number that sets one name apart can make it the name of a later field. -/
example : (uniqueMembers .java [] (["a", "A", "a2", "class"].map Field.new)).map (·.name)
    = ["a", "a2", "a22", "class_"] := by
  decide +kernel

end Declaration

end ClassInference
