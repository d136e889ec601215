import ClassInference.Proofs.Contents

/-!
# Sightings

What a document shows of its classes, one sighting after the other: an object of a class, or a value
under a key of a class. Building from a document is taking note of its sightings in turn. The
objects of an enumeration are closed: what is inside them is not looked at.
-/

namespace ClassInference

open Json (Value)

/-- An object of a class, or a value under a key of an object of the class. -/
structure Sighting where
  className : String
  member? : Option (String × Value)

namespace Sighting

mutual

/-- The sightings in a value whose objects belong to `className`. -/
def ofValue (className : String) : Value → List Sighting
  | .object members => ⟨className, none⟩ :: ofMembers className members
  | .array items => ofItems className items
  | _ => []

def ofItems (className : String) : List Value → List Sighting
  | [] => []
  | v :: vs => ofValue className v ++ ofItems className vs

def ofMembers (className : String) : List (String × Value) → List Sighting
  | [] => []
  | (key, v) :: rest =>
    ⟨className, some (key, v)⟩ :: (ofValue (Naming.typeName key) v ++ ofMembers className rest)

end

mutual

/-- The sightings in a value, without those inside the objects of closed classes. -/
def ofOpenValue (closed : String → Bool) (className : String) : Value → List Sighting
  | .object members =>
    ⟨className, none⟩ :: if closed className then [] else ofOpenMembers closed className members
  | .array items => ofOpenItems closed className items
  | _ => []

def ofOpenItems (closed : String → Bool) (className : String) : List Value → List Sighting
  | [] => []
  | v :: vs => ofOpenValue closed className v ++ ofOpenItems closed className vs

def ofOpenMembers (closed : String → Bool) (className : String) :
    List (String × Value) → List Sighting
  | [] => []
  | (key, v) :: rest =>
    ⟨className, some (key, v)⟩ ::
      (ofOpenValue closed (Naming.typeName key) v ++ ofOpenMembers closed className rest)

end

mutual

theorem ofOpenValue_eq_ofValue (className : String) : ∀ v : Value,
    ofOpenValue (fun _ => false) className v = ofValue className v
  | .object members => by
      rw [ofOpenValue, ofValue, ofOpenMembers_eq_ofMembers className members]
      rfl
  | .array items => by
      rw [ofOpenValue, ofValue, ofOpenItems_eq_ofItems className items]
  | .null | .bool _ | .number _ | .string _ => by simp [ofOpenValue, ofValue]

theorem ofOpenItems_eq_ofItems (className : String) : ∀ items : List Value,
    ofOpenItems (fun _ => false) className items = ofItems className items
  | [] => by rw [ofOpenItems, ofItems]
  | v :: vs => by
      rw [ofOpenItems, ofItems, ofOpenValue_eq_ofValue className v,
        ofOpenItems_eq_ofItems className vs]

theorem ofOpenMembers_eq_ofMembers (className : String) : ∀ members : List (String × Value),
    ofOpenMembers (fun _ => false) className members = ofMembers className members
  | [] => by rw [ofOpenMembers, ofMembers]
  | (key, v) :: rest => by
      rw [ofOpenMembers, ofMembers, ofOpenValue_eq_ofValue _ v,
        ofOpenMembers_eq_ofMembers className rest]

end

end Sighting

namespace ClassGraph

/-- Take note of a sighting, in a new node if the class is new. -/
def see (g : ClassGraph) (package : String) (s : Sighting) : ClassGraph :=
  match s.member? with
  | none => g.ensure package s.className
  | some (key, v) =>
    (g.ensure package s.className).modify s.className (·.observe key v (Naming.typeName key))

def seeAll (g : ClassGraph) (package : String) (sightings : List Sighting) : ClassGraph :=
  sightings.foldl (·.see package) g

variable {g : ClassGraph} {package name : String}

@[simp] theorem seeAll_nil (g : ClassGraph) (package : String) : g.seeAll package [] = g := rfl

@[simp] theorem seeAll_cons (g : ClassGraph) (package : String) (s : Sighting)
    (rest : List Sighting) : g.seeAll package (s :: rest) = (g.see package s).seeAll package rest :=
  rfl

@[simp] theorem seeAll_append (g : ClassGraph) (package : String) (sightings more : List Sighting) :
    g.seeAll package (sightings ++ more) = (g.seeAll package sightings).seeAll package more := by
  simp [seeAll]

/-- Whether a name is that of an enumeration. -/
def isEnumeration (g : ClassGraph) (name : String) : Bool :=
  (g.find? name).any (·.content.isEnumeration)

theorem isEnumeration_ensure (g : ClassGraph) (package name : String) :
    (g.ensure package name).isEnumeration = g.isEnumeration := by
  funext n
  unfold isEnumeration
  rw [find?_ensure]
  by_cases hn : n = name
  · subst hn
    cases g.find? n <;> simp [ClassNode.new, Content.isEnumeration]
  · rw [if_neg hn]

theorem isEnumeration_observe (g : ClassGraph) (name key : String) (v : Value) (nested : String) :
    (g.modify name (·.observe key v nested)).isEnumeration = g.isEnumeration := by
  have hnode : ∀ c : ClassNode,
      (c.observe key v nested).content.isEnumeration = c.content.isEnumeration := fun c =>
    Content.isEnumeration_mapFields _ c.content
  funext n
  unfold isEnumeration
  rw [find?_modify]
  by_cases hn : n = name
  · cases g.find? n <;> simp [hn, hnode]
  · rw [if_neg hn]

/-- No sighting makes or unmakes an enumeration. -/
theorem isEnumeration_see (g : ClassGraph) (package : String) (s : Sighting) :
    (g.see package s).isEnumeration = g.isEnumeration := by
  unfold see
  split
  · exact isEnumeration_ensure g package s.className
  · rw [isEnumeration_observe, isEnumeration_ensure]

theorem isEnumeration_seeAll (g : ClassGraph) (package : String) (sightings : List Sighting) :
    (g.seeAll package sightings).isEnumeration = g.isEnumeration := by
  induction sightings generalizing g with
  | nil => rfl
  | cons s rest ih => rw [seeAll_cons, ih, isEnumeration_see]

/-- No node is an enumeration. -/
def RecordsOnly (g : ClassGraph) : Prop := g.EveryContent (·.isEnumeration = false)

theorem recordsOnly_iff : g.RecordsOnly ↔ g.isEnumeration = fun _ => false := by
  constructor
  · intro hg
    funext n
    unfold isEnumeration
    cases hc : g.find? n with
    | none => rfl
    | some c => exact hg hc
  · intro h n c hc
    have hn : g.isEnumeration n = false := by rw [h]
    rwa [isEnumeration, hc] at hn

theorem recordsOnly_new (builtins : Builtins) : (new builtins).RecordsOnly := every_new fun _ => rfl

theorem RecordsOnly.ensure (hg : g.RecordsOnly) (package name : String) :
    (g.ensure package name).RecordsOnly := by
  rwa [recordsOnly_iff, isEnumeration_ensure, ← recordsOnly_iff]

theorem RecordsOnly.see (hg : g.RecordsOnly) (package : String) (s : Sighting) :
    (g.see package s).RecordsOnly := by
  rwa [recordsOnly_iff, isEnumeration_see, ← recordsOnly_iff]

theorem RecordsOnly.seeAll (hg : g.RecordsOnly) (package : String) (sightings : List Sighting) :
    (g.seeAll package sightings).RecordsOnly := by
  rwa [recordsOnly_iff, isEnumeration_seeAll, ← recordsOnly_iff]

theorem mem_names_see {s : Sighting} :
    name ∈ (g.see package s).names ↔ name = s.className ∨ name ∈ g.names := by
  unfold see
  split <;> simp [mem_names_ensure]

theorem mem_names_seeAll {sightings : List Sighting} :
    name ∈ (g.seeAll package sightings).names ↔
      (∃ s ∈ sightings, name = s.className) ∨ name ∈ g.names := by
  induction sightings generalizing g with
  | nil => simp
  | cons s rest ih =>
      simp only [seeAll_cons, ih, mem_names_see, List.mem_cons, exists_eq_or_imp, or_assoc]
      exact or_left_comm

theorem builtins_see (g : ClassGraph) (package : String) (s : Sighting) :
    (g.see package s).builtins = g.builtins := by
  unfold see
  split
  · exact builtins_ensure g package s.className
  · exact builtins_ensure g package s.className

theorem builtins_seeAll (g : ClassGraph) (package : String) (sightings : List Sighting) :
    (g.seeAll package sightings).builtins = g.builtins := by
  induction sightings generalizing g with
  | nil => rfl
  | cons s rest ih => rw [seeAll_cons, ih, builtins_see]

theorem ensure_of_mem_names (h : name ∈ g.names) : g.ensure package name = g := by
  rw [ensure, if_pos (contains_iff.2 h)]

/-! ### Building -/

theorem find?_content_of_mem_names (h : name ∈ g.names) :
    ∃ c, (g.find? name).map ClassNode.content = some c
      ∧ g.isEnumeration name = c.isEnumeration := by
  obtain ⟨c, hc⟩ := exists_find?_of_mem_names h
  exact ⟨c.content, by simp [hc], by simp [isEnumeration, hc]⟩

/-- An enumeration takes in no members. -/
theorem buildMembers_of_isEnumeration (h : g.isEnumeration name = true)
    (members : List (String × Value)) : g.buildMembers package name members = g := by
  induction members with
  | nil => rw [buildMembers]
  | cons m rest ih =>
      rw [buildMembers]
      split
      · rename_i fields hfields
        obtain ⟨c, hc, hcontent⟩ := Option.map_eq_some_iff.1 hfields
        simp [isEnumeration, hc, hcontent, Content.isEnumeration] at h
      · exact ih

mutual

theorem buildValue_eq_seeAll {g : ClassGraph} {closed : String → Bool}
    (hg : g.isEnumeration = closed) (package name : String) :
    ∀ v : Value, g.buildValue package name v
      = g.seeAll package (Sighting.ofOpenValue closed name v)
  | .object members => by
      have hensured : (g.ensure package name).isEnumeration = closed :=
        (isEnumeration_ensure g package name).trans hg
      rw [buildValue, Sighting.ofOpenValue, seeAll_cons]
      by_cases hclosed : closed name = true
      · rw [if_pos hclosed]
        exact buildMembers_of_isEnumeration (hensured ▸ hclosed) members
      · rw [if_neg hclosed]
        exact buildMembers_eq_seeAll hensured package (mem_names_ensure.2 (.inl rfl))
          (by simpa using hclosed) members
  | .array items => by
      rw [buildValue, Sighting.ofOpenValue]
      exact buildItems_eq_seeAll hg package name items
  | .null | .bool _ | .number _ | .string _ => by
      rw [buildValue, Sighting.ofOpenValue]
      · rfl
      all_goals simp

theorem buildItems_eq_seeAll {g : ClassGraph} {closed : String → Bool}
    (hg : g.isEnumeration = closed) (package name : String) :
    ∀ items : List Value, g.buildItems package name items
      = g.seeAll package (Sighting.ofOpenItems closed name items)
  | [] => by
      rw [buildItems, Sighting.ofOpenItems]
      rfl
  | v :: vs => by
      rw [buildItems, Sighting.ofOpenItems, seeAll_append, buildValue_eq_seeAll hg package name v]
      exact buildItems_eq_seeAll ((isEnumeration_seeAll g package _).trans hg) package name vs

theorem buildMembers_eq_seeAll {g : ClassGraph} {closed : String → Bool}
    (hg : g.isEnumeration = closed) (package : String) {name : String} (hn : name ∈ g.names)
    (hopen : closed name = false) :
    ∀ members : List (String × Value), g.buildMembers package name members
      = g.seeAll package (Sighting.ofOpenMembers closed name members)
  | [] => by
      rw [buildMembers, Sighting.ofOpenMembers]
      rfl
  | (key, v) :: rest => by
      have hsee : g.see package ⟨name, some (key, v)⟩
          = g.modify name (·.observe key v (Naming.typeName key)) := by
        rw [see, ensure_of_mem_names hn]
      have hnoted : (g.see package ⟨name, some (key, v)⟩).isEnumeration = closed :=
        (isEnumeration_see g package _).trans hg
      have hkeep : name ∈ ((g.see package ⟨name, some (key, v)⟩).seeAll package
          (Sighting.ofOpenValue closed (Naming.typeName key) v)).names :=
        mem_names_seeAll.2 (.inr (mem_names_see.2 (.inl rfl)))
      rw [buildMembers, Sighting.ofOpenMembers, seeAll_cons, seeAll_append]
      split
      · rw [← hsee]
        dsimp only
        rw [buildValue_eq_seeAll hnoted package _ v]
        exact buildMembers_eq_seeAll ((isEnumeration_seeAll _ package _).trans hnoted) package hkeep
          hopen rest
      · -- the class is there and is no enumeration
        rename_i hrecord
        obtain ⟨c, hc, hcontent⟩ := find?_content_of_mem_names hn
        rw [hg, hopen] at hcontent
        cases c with
        | record fields => exact absurd hc (hrecord fields)
        | enumeration constants => simp [Content.isEnumeration] at hcontent

end

/-- Building is taking note of what is not inside enumerations. -/
theorem build_eq_seeAll_open (g : ClassGraph) (document : Value) (package name : String) :
    g.build document package name
      = g.seeAll package (Sighting.ofOpenValue g.isEnumeration name document) :=
  buildValue_eq_seeAll rfl package name document

theorem build_eq_seeAll (hg : g.RecordsOnly) (document : Value) (package name : String) :
    g.build document package name = g.seeAll package (Sighting.ofValue name document) := by
  rw [build_eq_seeAll_open, recordsOnly_iff.1 hg, Sighting.ofOpenValue_eq_ofValue]

end ClassGraph

end ClassInference
