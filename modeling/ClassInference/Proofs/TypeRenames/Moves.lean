import ClassInference.Proofs.Identities
import ClassInference.Proofs.Inheritance.Moving

/-!
# Moved classes

A type rename first moves the class of the name: nothing happens, the class is renamed in its place,
or it is folded into the class that has the new name. What a node keeps through all of this is its
identity: its number, its package, and whether it gets a source file.
-/

namespace ClassInference

/-- What no edit of contents, links and names changes in a node. -/
structure Identity where
  id : Nat
  package : String
  generate : Bool
deriving DecidableEq

def ClassNode.identity (c : ClassNode) : Identity := ⟨c.id, c.package, c.generate⟩

namespace ClassGraph

variable {g : ClassGraph} {old new : String}

/-! ### The three outcomes -/

/-- What becomes of a graph in which the class `old` is moved to the name `new`. -/
inductive Move (g : ClassGraph) (old new : String) : ClassGraph → Prop
  | stays (h : g.isBuiltin old = true ∨ old = new ∨ old ∉ g.names) : Move g old new g
  | renamed (hbuiltin : g.isBuiltin old = false) (hne : old ≠ new) (hold : old ∈ g.names)
      (hnew : new ∉ g.names) : Move g old new ((g.rekey old new).redirectBases old new)
  | folded {origin : ClassNode} (hbuiltin : g.isBuiltin old = false) (hne : old ≠ new)
      (horigin : g.find? old = some origin) (hnew : new ∈ g.names) :
      Move g old new (((g.erase old).merge new origin).redirectBases old new)

/-- A class is folded if it can move and the name is taken. -/
theorem moveClass_of_mem_names {origin : ClassNode} (hbuiltin : g.isBuiltin old = false)
    (hne : old ≠ new) (horigin : g.find? old = some origin) (hnew : new ∈ g.names) :
    g.moveClass old new = ((g.erase old).merge new origin).redirectBases old new := by
  unfold moveClass
  rw [hbuiltin, horigin]
  simp [hne, contains_iff.2 hnew]

/-- A class takes the name if it can move and the name is free. -/
theorem moveClass_of_not_mem_names {origin : ClassNode} (hbuiltin : g.isBuiltin old = false)
    (hne : old ≠ new) (horigin : g.find? old = some origin) (hnew : new ∉ g.names) :
    g.moveClass old new = (g.rekey old new).redirectBases old new := by
  have hrename := rename?_eq_some_iff.2 ⟨⟨hne, hnew, mem_names_of_find? horigin⟩, rfl⟩
  have hfree : g.contains new = false := by
    rw [← Bool.not_eq_true, contains_iff]
    exact hnew
  unfold moveClass
  rw [hbuiltin, horigin]
  simp [hne, hfree, hrename]

theorem moveClass_of_stays (h : g.isBuiltin old = true ∨ old = new ∨ old ∉ g.names) :
    g.moveClass old new = g := by
  unfold moveClass
  rcases h with hbuiltin | hsame | hold
  · rw [hbuiltin, Bool.true_or, if_pos rfl]
  · simp [hsame]
  · rw [find?_eq_none_iff.2 hold]
    split <;> rfl

theorem move_moveClass (g : ClassGraph) (old new : String) :
    g.Move old new (g.moveClass old new) := by
  by_cases hstays : g.isBuiltin old = true ∨ old = new ∨ old ∉ g.names
  · rw [moveClass_of_stays hstays]
    exact .stays hstays
  · rw [not_or, not_or, Bool.not_eq_true, not_not] at hstays
    obtain ⟨hbuiltin, hne, hold⟩ := hstays
    obtain ⟨origin, horigin⟩ := exists_find?_of_mem_names hold
    by_cases hnew : new ∈ g.names
    · rw [moveClass_of_mem_names hbuiltin hne horigin hnew]
      exact .folded hbuiltin hne horigin hnew
    · rw [moveClass_of_not_mem_names hbuiltin hne horigin hnew]
      exact .renamed hbuiltin hne hold hnew

/-! ### Names in order -/

theorem names_erase (g : ClassGraph) (name : String) :
    (g.erase name).names = g.names.filter (· != name) :=
  OrderedTable.keys_erase g.classes name

theorem names_rekey (hnew : new ∉ g.names) (old : String) :
    (g.rekey old new).names = g.names.map fun n => if n = old then new else n :=
  OrderedTable.keys_rekey _ hnew

theorem names_renamed (hnew : new ∉ g.names) (old : String) :
    ((g.rekey old new).redirectBases old new).names
      = g.names.map fun n => if n = old then new else n := by
  rw [names_redirectBases, names_rekey hnew]

theorem names_folded (g : ClassGraph) (old new : String) (origin : ClassNode) :
    (((g.erase old).merge new origin).redirectBases old new).names
      = g.names.filter (· != old) := by
  rw [names_redirectBases, merge, names_mergeFrom, names_erase]

/-! ### Identities -/

/-- The identity of the node of a name. -/
def identity? (g : ClassGraph) (name : String) : Option Identity :=
  (g.find? name).map (·.identity)

theorem isSome_identity?_iff {name : String} :
    (g.identity? name).isSome = true ↔ name ∈ g.names := by
  rw [identity?, Option.isSome_map, find?_isSome_iff]

theorem isBuiltin_eq (g : ClassGraph) (name : String) :
    g.isBuiltin name = (g.identity? name).any fun i => g.isReserved i.package := by
  rw [isBuiltin, identity?]
  cases g.find? name <;> rfl

theorem mem_names_of_isBuiltin {n : String} (h : g.isBuiltin n = true) : n ∈ g.names := by
  rw [isBuiltin] at h
  split at h
  · exact mem_names_of_find? ‹_›
  · simp at h

theorem identity?_ensure_of_mem_names {n : String} (h : n ∈ g.names) (package name : String) :
    (g.ensure package name).identity? n = g.identity? n := by
  obtain ⟨c, hc⟩ := exists_find?_of_mem_names h
  rw [identity?, find?_ensure, identity?]
  split
  · rename_i hn
    rw [← hn, hc]
    rfl
  · rfl

theorem identity?_modify {f : ClassNode → ClassNode} (hf : ∀ c, (f c).identity = c.identity)
    (g : ClassGraph) (name : String) : (g.modify name f).identity? = g.identity? := by
  funext n
  rw [identity?, find?_modify, identity?]
  split
  · cases g.find? n <;> simp [hf]
  · rfl

theorem identity?_mapNodes {f : ClassNode → ClassNode} (hf : ∀ c, (f c).identity = c.identity)
    (g : ClassGraph) : (g.mapNodes f).identity? = g.identity? := by
  funext n
  rw [identity?, find?_mapNodes, identity?]
  cases g.find? n <;> simp [hf]

theorem identity?_setBase (g : ClassGraph) (sub base : String) :
    (g.setBase sub base).identity? = g.identity? := by
  unfold setBase setBase?
  split
  · exact identity?_modify (fun _ => by rfl) g sub
  · rfl

theorem identity?_redirectBases (g : ClassGraph) (old new : String) :
    (g.redirectBases old new).identity? = g.identity? := by
  apply identity?_mapNodes
  intro c
  split <;> rfl

theorem identity?_mergeFrom (g : ClassGraph) (met : List String) (target : String)
    (other : ClassNode) : (g.mergeFrom met target other).identity? = g.identity? := by
  apply mergeFrom_induction (motive := fun k => k.identity? = g.identity?)
  · intro k target other hk
    rw [identity?_modify (fun _ => by rfl), hk]
  · intro k sub base hk
    rw [identity?_setBase, hk]
  · rfl

theorem identity?_retype (g : ClassGraph) (source target : TypeRef) (asArray : Bool) :
    (g.mapNodes (·.retype source target asArray)).identity? = g.identity? :=
  identity?_mapNodes (fun _ => by rfl) g

theorem identity?_renameField (g : ClassGraph) (rule : FieldRename) :
    ((g.renameField? rule).getD g).identity? = g.identity? := by
  unfold renameField?
  split
  · exact identity?_modify (fun _ => by rfl) g _
  · rfl

theorem identity?_deleteField (g : ClassGraph) (rule : FieldDelete) :
    ((g.deleteField? rule).getD g).identity? = g.identity? := by
  unfold deleteField?
  split
  · exact identity?_modify (fun _ => by rfl) g _
  · rfl

theorem identity?_erase (g : ClassGraph) (name n : String) :
    (g.erase name).identity? n = if n = name then none else g.identity? n := by
  rw [identity?, find?_erase, identity?]
  split <;> rfl

theorem identity?_rekey (hnew : new ∉ g.names) (old n : String) :
    (g.rekey old new).identity? n
      = if n = new then g.identity? old else if n = old then none else g.identity? n := by
  rw [identity?, find?_rekey hnew, identity?, identity?]
  split
  · cases g.find? old <;> rfl
  · split <;> rfl

/-- A class that is renamed in its place takes its identity along. -/
theorem identity?_renamed (hnew : new ∉ g.names) (n : String) :
    ((g.rekey old new).redirectBases old new).identity? n
      = if n = new then g.identity? old else if n = old then none else g.identity? n := by
  rw [identity?_redirectBases, identity?_rekey hnew]

/-- A class that is folded leaves the other identities as they are. -/
theorem identity?_folded (origin : ClassNode) (n : String) :
    (((g.erase old).merge new origin).redirectBases old new).identity? n
      = if n = old then none else g.identity? n := by
  rw [identity?_redirectBases, merge, identity?_mergeFrom, identity?_erase]

/-- A class that moves gives up its name, and has the new one if that was free. -/
theorem identity?_moveClass (hbuiltin : g.isBuiltin old = false) (hne : old ≠ new)
    (hold : old ∈ g.names) (n : String) :
    (g.moveClass old new).identity? n
      = if n = old then none
        else if n = new then (g.identity? new <|> g.identity? old) else g.identity? n := by
  obtain ⟨origin, horigin⟩ := exists_find?_of_mem_names hold
  by_cases hnew : new ∈ g.names
  · obtain ⟨i, hi⟩ := Option.isSome_iff_exists.1 (isSome_identity?_iff.2 hnew)
    rw [moveClass_of_mem_names hbuiltin hne horigin hnew, identity?_folded, hi]
    by_cases hn : n = new <;> simp [hn, hi]
  · have hnone : g.identity? new = none := by
      rw [identity?, find?_eq_none_iff.2 hnew, Option.map_none]
    rw [moveClass_of_not_mem_names hbuiltin hne horigin hnew, identity?_renamed hnew, hnone]
    by_cases hn : n = new
    · simp [hn, hne.symm]
    · rw [if_neg hn, if_neg hn]

/-! ### Built-in types -/

theorem nodeInvariant_builtins (builtins : Builtins) :
    NodeInvariant fun g => g.builtins = builtins where
  ensure g package name hg := (builtins_ensure g package name).trans hg
  modify _ _ _ _ hg := hg
  mapNodes _ _ _ hg := hg
  erase _ _ hg := hg
  rekey _ _ _ hg := hg

theorem builtins_edit (g : ClassGraph) (e : Edit) : (g.edit e).builtins = g.builtins :=
  (nodeInvariant_builtins g.builtins).edit rfl e

theorem builtins_renameType (g : ClassGraph) (old : String) (target : TypeSpec) :
    (g.renameType old target).builtins = g.builtins :=
  g.builtins_edit (.renameType old target)

theorem builtins_moveClass (g : ClassGraph) (old new : String) :
    (g.moveClass old new).builtins = g.builtins :=
  g.builtins_renameType old ⟨new, false⟩

/-- Names of rules are read alike in graphs of one language. -/
theorem resolveType_congr {k : ClassGraph} (h : k.builtins = g.builtins) :
    k.resolveType = g.resolveType := by
  funext name
  rw [resolveType, h, resolveType]

theorem isReserved_congr {k : ClassGraph} (h : k.builtins = g.builtins) :
    k.isReserved = g.isReserved := by
  funext package
  rw [isReserved, h, isReserved]

theorem isBuiltin_congr {k : ClassGraph} {n name : String} (hbuiltins : k.builtins = g.builtins)
    (hid : k.identity? n = g.identity? name) : k.isBuiltin n = g.isBuiltin name := by
  rw [isBuiltin_eq, isBuiltin_eq, hid, isReserved_congr hbuiltins]

/-! ### Type renames -/

theorem find?_renameType (g : ClassGraph) (old : String) (target : TypeSpec) (n : String) :
    (g.renameType old target).find? n
      = ((g.moveClass old target.name).find? n).map
          (·.retype (g.resolveType old) (g.resolveType target.name) target.isArray) := by
  have hread := resolveType_congr (g.builtins_moveClass old target.name)
  rw [renameType, hread, find?_mapNodes]

theorem names_renameType (g : ClassGraph) (old : String) (target : TypeSpec) :
    (g.renameType old target).names = (g.moveClass old target.name).names :=
  names_mapNodes _ _

theorem identity?_renameType (g : ClassGraph) (old : String) (target : TypeSpec) :
    (g.renameType old target).identity? = (g.moveClass old target.name).identity? :=
  identity?_retype _ _ _ _

/-- A node that is not renamed away keeps its identity. -/
theorem identity?_renameType_of_mem_names {name : String} {target : TypeSpec}
    (g : ClassGraph) (hn : name ∈ g.names) (hkeep : old = name → target.name = name) :
    (g.renameType old target).identity? name = g.identity? name := by
  rw [identity?_renameType]
  by_cases hstays : g.isBuiltin old = true ∨ old = target.name ∨ old ∉ g.names
  · rw [moveClass_of_stays hstays]
  · rw [not_or, not_or, Bool.not_eq_true, not_not] at hstays
    obtain ⟨hbuiltin, hne, hold⟩ := hstays
    have hno : name ≠ old := fun he => hne (he.symm.trans (hkeep he.symm).symm)
    obtain ⟨i, hi⟩ := Option.isSome_iff_exists.1 (isSome_identity?_iff.2 hn)
    rw [identity?_moveClass hbuiltin hne hold, if_neg hno]
    split
    · rename_i hnew
      rw [← hnew, hi]
      rfl
    · rfl

end ClassGraph

end ClassInference
