import ClassInference.Proofs.Documents.Objects

/-!
# Sighted values

The sightings of a document and the list of its objects tell the same: they know the same classes,
and under a key of a class they show the same values. The orders differ where a class is nested in
itself, because a value is descended into before the next member is looked at.
-/

namespace ClassInference

open Json (Value)
open Observation (objects objectsOfItems)

namespace Sighting

variable {className n key : String}

/-- What a member of a class shows of the values under a key of the class `n`. -/
def shown (n key className : String) (m : String × Value) : List Value :=
  if className = n ∧ m.1 = key then [m.2] else []

/-- The values seen under a key of a class. -/
def valuesSeen (n key : String) (sightings : List Sighting) : List Value :=
  sightings.flatMap fun s => s.member?.toList.flatMap (shown n key s.className)

theorem ofMembers_eq (className : String) (members : List (String × Value)) :
    ofMembers className members
      = members.flatMap fun m => ⟨className, some m⟩ :: ofValue (Naming.typeName m.1) m.2 := by
  induction members with
  | nil => rfl
  | cons m rest ih => rw [ofMembers, ih, List.flatMap_cons, List.cons_append]

mutual

theorem ofValue_eq (className : String) : ∀ v : Value,
    ofValue className v = (objects v).flatMap fun members =>
      ⟨className, none⟩ ::
        members.flatMap fun m => ⟨className, some m⟩ :: ofValue (Naming.typeName m.1) m.2
  | .object members => by
      rw [ofValue, objects, List.flatMap_singleton, ofMembers_eq]
  | .array items => by
      rw [ofValue, objects]
      exact ofItems_eq className items
  | .null | .bool _ | .number _ | .string _ => by simp [ofValue, objects]

theorem ofItems_eq (className : String) : ∀ items : List Value,
    ofItems className items = (objectsOfItems items).flatMap fun members =>
      ⟨className, none⟩ ::
        members.flatMap fun m => ⟨className, some m⟩ :: ofValue (Naming.typeName m.1) m.2
  | [] => by simp [ofItems, objectsOfItems]
  | v :: vs => by
      rw [ofItems, objectsOfItems, List.flatMap_append, ofValue_eq className v,
        ofItems_eq className vs]

end

/-- The classes sighted are those of the listed objects. -/
theorem exists_mem_ofValue_iff (v : Value) :
    (∃ s ∈ ofValue className v, n = s.className) ↔ ∃ o, (n, o) ∈ typedObjects className v := by
  induction v using object_induction generalizing className with
  | step v ih =>
      rw [ofValue_eq, typedObjects_eq]
      simp only [List.mem_flatMap, List.mem_cons]
      constructor
      · rintro ⟨s, ⟨members, hmem, rfl | ⟨m, hm, rfl | hs⟩⟩, rfl⟩
        · exact ⟨members, members, hmem, .inl rfl⟩
        · exact ⟨members, members, hmem, .inl rfl⟩
        · obtain ⟨o, ho⟩ := (ih members hmem m hm).1 ⟨s, hs, rfl⟩
          exact ⟨o, members, hmem, .inr ⟨m, hm, ho⟩⟩
      · rintro ⟨o, members, hmem, he | ⟨m, hm, ho⟩⟩
        · obtain ⟨rfl, -⟩ := Prod.mk.inj he
          exact ⟨⟨n, none⟩, ⟨members, hmem, .inl rfl⟩, rfl⟩
        · obtain ⟨s, hs, hn⟩ := (ih members hmem m hm).2 ⟨o, ho⟩
          exact ⟨s, ⟨members, hmem, .inr ⟨m, hm, .inr hs⟩⟩, hn⟩

theorem valuesSeen_flatMap {α : Type} (xs : List α) (f : α → List Sighting) :
    valuesSeen n key (xs.flatMap f) = xs.flatMap fun x => valuesSeen n key (f x) := by
  rw [valuesSeen, List.flatMap_assoc]
  rfl

theorem valuesSeen_cons_member (className : String) (m : String × Value) (rest : List Sighting) :
    valuesSeen n key (⟨className, some m⟩ :: rest)
      = shown n key className m ++ valuesSeen n key rest := by
  simp [valuesSeen]

theorem valuesSeen_cons_object (className : String) (rest : List Sighting) :
    valuesSeen n key (⟨className, none⟩ :: rest) = valuesSeen n key rest := by
  simp [valuesSeen]

/-- The values under a key in the objects of a class among those listed. -/
theorem flatMap_shown (typed : List (String × List (String × Value))) :
    (typed.flatMap fun e => e.2.flatMap (shown n key e.1))
      = ((typed.filter (·.1 = n)).map (·.2)).flatMap (valuesUnder key) := by
  have hshown : ∀ o, o.flatMap (shown n key n) = valuesUnder key o := by
    intro o
    induction o with
    | nil => rfl
    | cons m rest ih =>
        rw [List.flatMap_cons, ih, shown, valuesUnder, valuesUnder]
        by_cases hk : m.1 = key <;> simp [hk]
  have hother : ∀ c ≠ n, ∀ o : List (String × Value), o.flatMap (shown n key c) = [] := by
    intro c hc o
    simp [shown, hc]
  induction typed with
  | nil => rfl
  | cons e rest ih =>
      obtain ⟨c, o⟩ := e
      rw [List.flatMap_cons, ih]
      by_cases hc : c = n
      · simp [hc, hshown]
      · simp [hc, hother c hc o]

/-- Noting members while descending shows the values of the listed objects in another order. -/
theorem valuesSeen_ofValue_perm (n key : String) (className : String) (v : Value) :
    (valuesSeen n key (ofValue className v)).Perm
      ((typedObjects className v).flatMap fun e => e.2.flatMap (shown n key e.1)) := by
  induction v using object_induction generalizing className with
  | step v ih =>
      rw [ofValue_eq, typedObjects_eq, valuesSeen_flatMap, List.flatMap_assoc]
      apply List.Perm.flatMap_left
      intro members hmem
      rw [valuesSeen_cons_object, valuesSeen_flatMap, List.flatMap_cons, List.flatMap_assoc]
      simp only [valuesSeen_cons_member]
      -- own values first, then those of the objects inside
      refine (List.flatMap_append_perm members _ _).symm.trans (.append_left _ ?_)
      apply List.Perm.flatMap_left
      intro m hm
      exact ih members hmem m hm (Naming.typeName m.1)

end Sighting

open Sighting

variable {samples : List Sample}

/-- The values that the documents show under a key of a class, in the order of their sightings. -/
def valuesSeenIn (samples : List Sample) (n key : String) : List Value :=
  samples.flatMap fun s => valuesSeen n key (ofValue s.root s.document)

theorem valuesSeenIn_perm_valuesOf (samples : List Sample) (n key : String) :
    (valuesSeenIn samples n key).Perm (valuesOf samples n key) := by
  rw [valuesOf, objectsOf, ← flatMap_shown, List.flatMap_assoc]
  apply List.Perm.flatMap_left
  intro s _
  exact valuesSeen_ofValue_perm n key s.root s.document

theorem valuesSeenIn_eq_nil_iff {n key : String} :
    valuesSeenIn samples n key = [] ↔ ¬ ∃ o, Belongs samples n o ∧ key ∈ o.map Prod.fst := by
  have hlength := (valuesSeenIn_perm_valuesOf samples n key).length_eq
  rw [← valuesOf_eq_nil_iff, ← List.length_eq_zero_iff, hlength, List.length_eq_zero_iff]

theorem exists_sighting_iff {n : String} :
    (∃ s ∈ samples, ∃ t ∈ ofValue s.root s.document, n = t.className) ↔
      ∃ o, Belongs samples n o := by
  simp only [exists_mem_ofValue_iff, ← mem_objectsOf_iff, mem_objectsOf_iff_exists]
  constructor
  · rintro ⟨s, hs, o, ho⟩
    exact ⟨o, s, hs, ho⟩
  · rintro ⟨o, s, hs, ho⟩
    exact ⟨s, hs, o, ho⟩

end ClassInference
