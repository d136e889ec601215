import ClassInference.Proofs.Documents.Leaves
import ClassInference.Proofs.Documents.Sightings
import Mathlib.Data.List.Perm.Basic

/-!
# Objects and their classes

The objects of a document belong to the root class, and the objects found under a key of any object
belong to the class that the key names. The same objects are listed by one pass over the document,
and the values that the sightings show under a key of a class are the values of that key in the
listed objects, in another order.
-/

namespace ClassInference

open Json (Value)
open Observation (objects objectsOfItems hasObject hasObjectInItems Holds mem_objects_iff)

/-- A document, and where building from it starts. -/
structure Sample where
  document : Value
  package : String
  root : String

/-- The members `o` are those of an object of the class. -/
inductive Belongs (samples : List Sample) : String → List (String × Value) → Prop where
  | root {s : Sample} {o : List (String × Value)} :
      s ∈ samples → Holds s.document (.object o) → Belongs samples s.root o
  | member {className key : String} {v : Value} {o nested : List (String × Value)} :
      Belongs samples className o → (key, v) ∈ o → Holds v (.object nested) →
        Belongs samples (Naming.typeName key) nested

mutual

/-- The objects at any depth of a value with their classes, those of the value itself being of
`className`. -/
def typedObjects (className : String) : Value → List (String × List (String × Value))
  | .object members => (className, members) :: typedObjectsOfMembers members
  | .array items => typedObjectsOfItems className items
  | _ => []

def typedObjectsOfItems (className : String) : List Value → List (String × List (String × Value))
  | [] => []
  | v :: vs => typedObjects className v ++ typedObjectsOfItems className vs

def typedObjectsOfMembers : List (String × Value) → List (String × List (String × Value))
  | [] => []
  | (key, v) :: rest => typedObjects (Naming.typeName key) v ++ typedObjectsOfMembers rest

end

/-- The objects of a class in order of their documents, the outer before the inner ones. -/
def objectsOf (samples : List Sample) (className : String) : List (List (String × Value)) :=
  ((samples.flatMap fun s => typedObjects s.root s.document).filter (·.1 = className)).map (·.2)

/-- The values under a key of an object. -/
def valuesUnder (key : String) (o : List (String × Value)) : List Value :=
  (o.filter (·.1 = key)).map (·.2)

/-- The values under a key in all objects of a class. -/
def valuesOf (samples : List Sample) (className key : String) : List Value :=
  (objectsOf samples className).flatMap (valuesUnder key)

/-! ### Recursion over objects -/

mutual

theorem sizeOf_lt_of_mem_objects {o : List (String × Value)} {m : String × Value} (hm : m ∈ o) :
    ∀ v : Value, o ∈ objects v → sizeOf m.2 < sizeOf v
  | .object members => by
      intro ho
      rw [objects, List.mem_singleton] at ho
      have hlt : sizeOf m < sizeOf members := List.sizeOf_lt_of_mem (ho ▸ hm)
      obtain ⟨key, w⟩ := m
      simp only [Prod.mk.sizeOf_spec, Value.object.sizeOf_spec] at hlt ⊢
      omega
  | .array items => by
      intro ho
      have hlt := sizeOf_lt_of_mem_objectsOfItems hm items ho
      rw [Value.array.sizeOf_spec]
      omega
  | .null | .bool _ | .number _ | .string _ => by simp [objects]

theorem sizeOf_lt_of_mem_objectsOfItems {o : List (String × Value)} {m : String × Value}
    (hm : m ∈ o) : ∀ items : List Value, o ∈ objectsOfItems items → sizeOf m.2 < sizeOf items
  | [] => by simp [objectsOfItems]
  | v :: vs => by
      intro ho
      rw [objectsOfItems, List.mem_append] at ho
      rw [List.cons.sizeOf_spec]
      rcases ho with ho | ho
      · have hlt := sizeOf_lt_of_mem_objects hm v ho
        omega
      · have hlt := sizeOf_lt_of_mem_objectsOfItems hm vs ho
        omega

end

/-- To prove something of every value, prove it from what holds of all values in its objects. -/
theorem object_induction {motive : Value → Prop}
    (step : ∀ v, (∀ o ∈ objects v, ∀ m ∈ o, motive m.2) → motive v) (v : Value) : motive v :=
  step v fun _ _ho m _hm => object_induction step m.2
termination_by sizeOf v
decreasing_by exact sizeOf_lt_of_mem_objects _hm v _ho

mutual

theorem hasObject_iff : ∀ v : Value, hasObject v = true ↔ objects v ≠ []
  | .object members => by simp [hasObject, objects]
  | .array items => by
      rw [hasObject, objects]
      exact hasObjectInItems_iff items
  | .null | .bool _ | .number _ | .string _ => by simp [hasObject, objects]

theorem hasObjectInItems_iff : ∀ items : List Value,
    hasObjectInItems items = true ↔ objectsOfItems items ≠ []
  | [] => by simp [hasObjectInItems, objectsOfItems]
  | v :: vs => by
      rw [hasObjectInItems, objectsOfItems, Bool.or_eq_true, hasObject_iff v,
        hasObjectInItems_iff vs]
      simp only [ne_eq, List.append_eq_nil_iff, not_and_or]

end

theorem typedObjectsOfMembers_eq (members : List (String × Value)) :
    typedObjectsOfMembers members
      = members.flatMap fun m => typedObjects (Naming.typeName m.1) m.2 := by
  induction members with
  | nil => rfl
  | cons m rest ih => rw [typedObjectsOfMembers, ih, List.flatMap_cons]

mutual

/-- The objects of a value are of its class, those under their keys of the classes of the keys. -/
theorem typedObjects_eq (className : String) : ∀ v : Value,
    typedObjects className v = (objects v).flatMap fun members =>
      (className, members) :: members.flatMap fun m => typedObjects (Naming.typeName m.1) m.2
  | .object members => by
      rw [typedObjects, objects, List.flatMap_singleton, typedObjectsOfMembers_eq]
  | .array items => by
      rw [typedObjects, objects]
      exact typedObjectsOfItems_eq className items
  | .null | .bool _ | .number _ | .string _ => by simp [typedObjects, objects]

theorem typedObjectsOfItems_eq (className : String) : ∀ items : List Value,
    typedObjectsOfItems className items = (objectsOfItems items).flatMap fun members =>
      (className, members) :: members.flatMap fun m => typedObjects (Naming.typeName m.1) m.2
  | [] => by simp [typedObjectsOfItems, objectsOfItems]
  | v :: vs => by
      rw [typedObjectsOfItems, objectsOfItems, List.flatMap_append, typedObjects_eq className v,
        typedObjectsOfItems_eq className vs]

end

theorem mem_typedObjects_iff {className n : String} {v : Value} {o : List (String × Value)} :
    (n, o) ∈ typedObjects className v ↔ ∃ members ∈ objects v,
      (n = className ∧ o = members) ∨
        ∃ m ∈ members, (n, o) ∈ typedObjects (Naming.typeName m.1) m.2 := by
  rw [typedObjects_eq]
  simp

/-! ### Listing the objects of a class -/

variable {samples : List Sample} {className n key : String} {v w : Value}
  {o nested : List (String × Value)}

theorem valuesUnder_eq_nil_iff : valuesUnder key o = [] ↔ key ∉ o.map Prod.fst := by
  rw [valuesUnder, List.map_eq_nil_iff, List.filter_eq_nil_iff, List.mem_map, not_exists]
  apply forall_congr'
  intro m
  rw [decide_eq_true_eq, not_and]

theorem mem_objectsOf_iff_exists :
    o ∈ objectsOf samples n ↔ ∃ s ∈ samples, (n, o) ∈ typedObjects s.root s.document := by
  simp [objectsOf]

/-- What is listed of a value includes what its listed objects hold. -/
theorem mem_typedObjects_of_member (h : (n, o) ∈ typedObjects className v) (hm : (key, w) ∈ o)
    (hn : nested ∈ objects w) : (Naming.typeName key, nested) ∈ typedObjects className v := by
  induction v using object_induction generalizing className with
  | step v ih =>
      obtain ⟨members, hmem, hcases⟩ := mem_typedObjects_iff.1 h
      apply mem_typedObjects_iff.2 ⟨members, hmem, .inr _⟩
      rcases hcases with ⟨-, rfl⟩ | ⟨m, hm', hin⟩
      · exact ⟨(key, w), hm, mem_typedObjects_iff.2 ⟨nested, hn, .inl ⟨rfl, rfl⟩⟩⟩
      · exact ⟨m, hm', ih members hmem m hm' hin⟩

/-- If all objects of a value belong to a class, all listed objects belong to theirs. -/
theorem belongs_of_mem_typedObjects (hv : ∀ members ∈ objects v, Belongs samples className members)
    (h : (n, o) ∈ typedObjects className v) : Belongs samples n o := by
  induction v using object_induction generalizing className with
  | step v ih =>
      obtain ⟨members, hmem, hcases⟩ := mem_typedObjects_iff.1 h
      rcases hcases with ⟨rfl, rfl⟩ | ⟨m, hm, hin⟩
      · exact hv o hmem
      · apply ih members hmem m hm _ hin
        exact fun nested hn => .member (hv members hmem) hm ((mem_objects_iff m.2).1 hn)

/-- The listed objects of a class are those that belong to it. -/
theorem mem_objectsOf_iff : o ∈ objectsOf samples n ↔ Belongs samples n o := by
  rw [mem_objectsOf_iff_exists]
  constructor
  · rintro ⟨s, hs, h⟩
    exact belongs_of_mem_typedObjects (fun _ hmem => .root hs ((mem_objects_iff _).1 hmem)) h
  · intro h
    induction h with
    | root hs ho =>
        have hmem := (mem_objects_iff _).2 ho
        exact ⟨_, hs, mem_typedObjects_iff.2 ⟨_, hmem, .inl ⟨rfl, rfl⟩⟩⟩
    | member _ hm hn ih =>
        obtain ⟨s, hs, h⟩ := ih
        exact ⟨s, hs, mem_typedObjects_of_member h hm ((mem_objects_iff _).2 hn)⟩

theorem valuesOf_eq_nil_iff :
    valuesOf samples n key = [] ↔ ¬ ∃ o, Belongs samples n o ∧ key ∈ o.map Prod.fst := by
  simp only [valuesOf, List.flatMap_eq_nil_iff, valuesUnder_eq_nil_iff, mem_objectsOf_iff,
    not_exists, not_and]

end ClassInference
