import ClassInference.Proofs.Fields.Views
import ClassInference.Proofs.Inheritance.Runs
import ClassInference.Proofs.Members
import ClassInference.Dialect.Presets

/-!
# Constructor parameters

The declarations of a class and of its base are planned apart from each other. They agree on the
constructor because the fields of the base's constructor come first in that of the class, and
settling the names of the further fields leaves the ones before as they are.
-/

namespace ClassInference

namespace Declaration

namespace Kind

/-- The fields declared in the file. -/
def fields : Kind → List FieldDecl
  | record _ fields _ _ => fields
  | enumeration _ => []

def params : Kind → List FieldDecl
  | record _ _ params _ => params
  | enumeration _ => []

def superArgs : Kind → List String
  | record _ _ _ superArgs => superArgs
  | enumeration _ => []

/-- A class passes the parameters of its base on and adds its own fields. -/
structure Extends (sub base : Kind) : Prop where
  params : sub.params = base.params ++ sub.fields
  superArgs : sub.superArgs = base.params.map (·.name)

end Kind

end Declaration

namespace ClassGraph

open Declaration

variable {g : ClassGraph} {a b : String} {c : ClassNode} {above : List Field} (d : Dialect)

/-- The fields declared in the file of a class; none if there is no such class. -/
def emittedFields (g : ClassGraph) (d : Dialect) (name : String) : List FieldDecl :=
  ((g.find? name).map fun c => (g.declare d c).kind.fields).getD []

/-- The members that `more` adds to those of the fields `above`. -/
def addedMembers (d : Dialect) (above more : List Field) : List FieldDecl :=
  uniqueMembers d (accessors (uniqueMembers d [] above)).reverse more

theorem uniqueMembers_above_append (above more : List Field) :
    uniqueMembers d [] (above ++ more)
      = uniqueMembers d [] above ++ addedMembers d above more := by
  rw [uniqueMembers_append, List.append_nil, addedMembers]

/-! ### The plan of one class -/

/-- The parameters are cut where those of the base end. -/
theorem split_params (hsplit : g.constructorFields a = above ++ g.declaredFields a) :
    (uniqueMembers d [] (g.constructorFields a)).length - (g.declaredFields a).length
      = (uniqueMembers d [] above).length := by
  rw [length_uniqueMembers, length_uniqueMembers, hsplit, List.length_append]
  omega

section Record

variable (hr : c.content.isEnumeration = false)

include hr

theorem kind_declare_record : (g.declare d c).kind = (planRecord g d c).2 := by
  unfold ClassGraph.declare
  cases h : c.content with
  | record fields => rfl
  | enumeration constants => simp [h, Content.isEnumeration] at hr

theorem params_declare :
    (g.declare d c).kind.params = uniqueMembers d [] (g.constructorFields c.name) := by
  rw [kind_declare_record d hr]
  rfl

variable (hsplit : g.constructorFields c.name = above ++ g.declaredFields c.name)

include hsplit

theorem fields_declare :
    (g.declare d c).kind.fields = addedMembers d above (g.declaredFields c.name) := by
  rw [kind_declare_record d hr]
  change (uniqueMembers d [] (g.constructorFields c.name)).drop _ = _
  rw [split_params d hsplit, hsplit, uniqueMembers_above_append, List.drop_left]

theorem superArgs_declare (hbase : (g.baseOf? c.name).isSome = true) :
    (g.declare d c).kind.superArgs = (uniqueMembers d [] above).map (·.name) := by
  rw [kind_declare_record d hr]
  change (if ((g.baseOf? c.name).map (·.name)).isSome = true then _ else _) = _
  rw [Option.isSome_map, if_pos hbase, split_params d hsplit, hsplit, uniqueMembers_above_append,
    List.take_left]

end Record

/-- What the file of a class declares, whatever kind of node it is. -/
theorem emittedFields_eq (hn : g.Named)
    (hsplit : g.constructorFields a = above ++ g.declaredFields a) :
    g.emittedFields d a = addedMembers d above (g.declaredFields a) := by
  unfold emittedFields
  cases hc : g.find? a with
  | none => simp [declaredFields, ownFields, hc, addedMembers, uniqueMembers]
  | some c =>
      obtain rfl := hn hc
      cases hcontent : c.content with
      | record fields =>
          have hr : c.content.isEnumeration = false := by rw [hcontent]; rfl
          exact fields_declare d hr hsplit
      | enumeration constants =>
          have hnone : c.fields = [] := by rw [ClassNode.fields, hcontent]; rfl
          have hkind : (g.declare d c).kind.fields = [] := by
            rw [ClassGraph.declare, hcontent]
            rfl
          simp [hkind, declaredFields, ownFields, hc, hnone, addedMembers, uniqueMembers]

/-! ### Along the base chain -/

/-- The fields that the files of a class and all its ancestors declare are the parameters of its
constructor. -/
theorem Acyclic.flatMap_emittedFields (hg : g.Acyclic) (hn : g.Named) (a : String) :
    (a :: g.ancestors a).reverse.flatMap (g.emittedFields d)
      = uniqueMembers d [] (g.constructorFields a) := by
  induction a using hg.induction with
  | root a hroot =>
      have hsplit : g.constructorFields a = [] ++ g.declaredFields a :=
        constructorFields_of_baseName? hroot
      rw [ancestors_of_baseName? hroot, hsplit, uniqueMembers_above_append,
        ← emittedFields_eq d hn hsplit]
      simp [uniqueMembers]
  | derived a b h ih =>
      have hsplit := hg.constructorFields_of_derives h
      rw [hg.ancestors_of_derives h, List.reverse_cons, List.flatMap_append, ih, hsplit,
        uniqueMembers_above_append, ← emittedFields_eq d hn hsplit]
      simp

theorem Acyclic.nodup_accessors_chain (hg : g.Acyclic) (hn : g.Named) (a : String) :
    ((a :: g.ancestors a).flatMap fun name => accessors (g.emittedFields d name)).Nodup := by
  have hperm : ((a :: g.ancestors a).flatMap fun name => accessors (g.emittedFields d name)).Perm
      (accessors (uniqueMembers d [] (g.constructorFields a))) := by
    rw [← hg.flatMap_emittedFields d hn a, accessors, List.map_flatMap]
    exact ((a :: g.ancestors a).reverse_perm.flatMap_right _).symm
  exact hperm.nodup_iff.2 (accessors_uniqueMembers d [] _).1

/-- In every dialect the declaration of a class extends that of its base, with a parameter for each
field of the constructor, and no two fields declared in the files of its whole base chain share an
accessor. -/
theorem declare_extends_base (hg : g.Acyclic) (hn : g.Named) (d : Dialect) {c base : ClassNode}
    (hc : g.find? a = some c) (hb : g.find? b = some base) (hlink : c.base = some b)
    (hcr : c.content.isEnumeration = false) (hbr : base.content.isEnumeration = false) :
    (g.declare d c).kind.Extends (g.declare d base).kind ∧
      (g.declare d c).kind.params.map (·.wireName)
        = (g.constructorFields a).map (·.wireName) ∧
      ((a :: g.ancestors a).flatMap fun name => accessors (g.emittedFields d name)).Nodup := by
  obtain rfl := hn hc
  obtain rfl := hn hb
  have hd : g.Derives c.name base.name := (derives_iff_of_find? hc).2 hlink
  have hsplit := hg.constructorFields_of_derives hd
  have hbase : (g.baseOf? c.name).isSome = true := by
    rw [baseOf?, hd, Option.bind_some, hb]
    rfl
  have hextends : (g.declare d c).kind.Extends (g.declare d base).kind := by
    constructor
    · rw [params_declare d hcr, params_declare d hbr, fields_declare d hcr hsplit, hsplit,
        uniqueMembers_above_append]
    · rw [superArgs_declare d hcr hsplit hbase, params_declare d hbr]
  refine ⟨hextends, ?_, hg.nodup_accessors_chain d hn c.name⟩
  rw [params_declare d hcr, map_wireName_uniqueMembers]

/-- `Heir` derives from `Middle` and that from `Root`; each has a key of its own for one name. -/
def collidingCalls : List Call :=
  [.edit (.build (.object [("user_id", .bool true)]) "p" "Root"),
    .edit (.build (.object [("userId", .bool true), ("user_id", .null)]) "p" "Middle"),
    .edit (.build (.object [("UserId", .string "x"), ("user-id", .null)]) "p" "Heir"),
    .edit (.setBase "Middle" "Root"), .edit (.setBase "Heir" "Middle")]

/-- Each file numbers its members after those of the classes above. -/
example : (((new ⟨"java.lang", "String", "java"⟩).runCalls collidingCalls).emittedFields .java
    "Heir").map (·.name) = ["userId3", "userId4"] := by
  decide +kernel

theorem declare_extends_base_collidingCalls :
    let g := (new ⟨"java.lang", "String", "java"⟩).runCalls collidingCalls
    ∃ c base, g.find? "Heir" = some c ∧ g.find? "Middle" = some base ∧
      (g.declare .java c).kind.Extends (g.declare .java base).kind ∧
      (g.declare .java c).kind.params.map (·.wireName)
        = (g.constructorFields "Heir").map (·.wireName) ∧
      (("Heir" :: g.ancestors "Heir").flatMap fun name =>
        accessors (g.emittedFields .java name)).Nodup := by
  intro g
  have hg : g.Acyclic := by decide +kernel
  have hn : g.Named := by
    have h : g = (new ⟨"java.lang", "String", "java"⟩).run _ := runCalls_eq_run _ _
    rw [h]
    exact (wellLinked_run _ _).named
  have hc : (g.find? "Heir").map (fun c => (c.base, c.content.isEnumeration))
      = some (some "Middle", false) := by
    decide +kernel
  have hb : (g.find? "Middle").map (·.content.isEnumeration) = some false := by
    decide +kernel
  obtain ⟨c, hc, hfacts⟩ := Option.map_eq_some_iff.1 hc
  obtain ⟨hlink, hcr⟩ := Prod.mk.inj hfacts
  obtain ⟨base, hb, hbr⟩ := Option.map_eq_some_iff.1 hb
  exact ⟨c, base, hc, hb, declare_extends_base hg hn .java hc hb hlink hcr hbr⟩

end ClassGraph

end ClassInference
