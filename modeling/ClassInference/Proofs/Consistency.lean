import ClassInference.Proofs.Fields.Keyed
import ClassInference.Proofs.Identities
import ClassInference.Proofs.Inheritance.Runs

/-!
# Consistent graphs

What holds of every graph that calls lead to from a new one, whatever they ask for: nodes under
their names with identities of their own, fields under their wire names with the default names of
these, bases that are other nodes, and constants of different names.
-/

namespace ClassInference

/-! ### Default names -/

/-- The field has the default name that its wire name gives, as every new field has. -/
def Field.DefaultNamed (f : Field) : Prop := f.defaultName = Naming.fieldName f.wireName

instance (f : Field) : Decidable f.DefaultNamed := inferInstanceAs (Decidable (_ = _))

theorem Field.DefaultNamed.retype {f : Field} (hf : f.DefaultNamed) (source target : TypeRef)
    (asArray : Bool) : (f.retype source target asArray).DefaultNamed := by
  unfold Field.retype retype?
  split <;> exact hf

namespace OrderedTable

/-- All fields of the table have their default names. -/
def DefaultNamed (t : OrderedTable Field) : Prop := ∀ f ∈ t.values, f.DefaultNamed

instance (t : OrderedTable Field) : Decidable t.DefaultNamed :=
  inferInstanceAs (Decidable (∀ f ∈ t.values, f.DefaultNamed))

variable {t : OrderedTable Field}

theorem DefaultNamed.of_get? (h : ∀ key f, t.get? key = some f → f.DefaultNamed) :
    t.DefaultNamed := by
  intro f hf
  obtain ⟨key, hkey⟩ := mem_values_iff.1 hf
  exact h key f hkey

theorem DefaultNamed.get? (ht : t.DefaultNamed) {key : String} {f : Field}
    (hf : t.get? key = some f) : f.DefaultNamed :=
  ht f (mem_values_iff.2 ⟨key, hf⟩)

theorem defaultNamed_empty : (∅ : OrderedTable Field).DefaultNamed := by
  intro f hf
  cases hf

theorem DefaultNamed.map (ht : t.DefaultNamed) {F : String → Field → Field}
    (hF : ∀ key f, f.DefaultNamed → (F key f).DefaultNamed) : (t.map F).DefaultNamed := by
  apply DefaultNamed.of_get?
  intro key f hf
  rw [get?_map] at hf
  obtain ⟨f', hf', rfl⟩ := Option.map_eq_some_iff.1 hf
  exact hF key f' (ht.get? hf')

theorem DefaultNamed.modify (ht : t.DefaultNamed) (key : String) {F : Field → Field}
    (hF : ∀ f, f.DefaultNamed → (F f).DefaultNamed) : (t.modify key F).DefaultNamed := by
  apply ht.map
  intro k f hf
  split
  · exact hF f hf
  · exact hf

theorem DefaultNamed.ensure (ht : t.DefaultNamed) (key : String) :
    (t.ensure key (.new key)).DefaultNamed := by
  apply DefaultNamed.of_get?
  intro k f hf
  rw [get?_ensure] at hf
  split at hf
  · cases ho : t.get? key with
    | none =>
        rw [ho, Option.getD_none, Option.some.injEq] at hf
        rw [← hf]
        exact rfl
    | some own =>
        rw [ho, Option.getD_some, Option.some.injEq] at hf
        rw [← hf]
        exact ht.get? ho
  · exact ht.get? hf

theorem DefaultNamed.erase (ht : t.DefaultNamed) (key : String) : (t.erase key).DefaultNamed := by
  apply DefaultNamed.of_get?
  intro k f hf
  rw [get?_erase] at hf
  split at hf
  · simp at hf
  · exact ht.get? hf

theorem DefaultNamed.addField (ht : t.DefaultNamed) {f : Field} (hf : f.DefaultNamed) :
    (Content.addField t f).DefaultNamed := by
  apply DefaultNamed.of_get?
  intro k f' hf'
  rw [Content.addField, get?_combine] at hf'
  split at hf'
  · cases ho : t.get? f.wireName with
    | none =>
        rw [ho, Option.elim_none, Option.some.injEq] at hf'
        rwa [← hf']
    | some own =>
        rw [ho, Option.elim_some, Option.some.injEq] at hf'
        have hown : own.DefaultNamed := ht.get? ho
        rwa [← hf']
  · exact ht.get? hf'

end OrderedTable

open OrderedTable

/-- All fields of the content have their default names. -/
def Content.DefaultNamed (c : Content) : Prop := c.fields.DefaultNamed

instance (c : Content) : Decidable c.DefaultNamed :=
  inferInstanceAs (Decidable c.fields.DefaultNamed)

theorem Content.DefaultNamed.mapFields {F : OrderedTable Field → OrderedTable Field} {c : Content}
    (hF : ∀ t : OrderedTable Field, t.DefaultNamed → (F t).DefaultNamed) (hc : c.DefaultNamed) :
    (c.mapFields F).DefaultNamed := by
  cases c with
  | record fields => exact hF fields hc
  | enumeration constants => exact defaultNamed_empty

theorem contentInvariant_defaultNamed :
    ContentInvariantOver Content.DefaultNamed Content.DefaultNamed where
  admits _ hc := hc
  emptyLike c := by cases c <;> exact defaultNamed_empty
  declareEnum c constants _ := defaultNamed_empty
  observe c key v nested hc :=
    hc.mapFields fun _ ht => (ht.ensure key).modify key fun _ hf => hf
  merge c other hc ho := by
    cases c with
    | record fields =>
        cases other with
        | record others =>
            exact List.foldlRecOn (motive := OrderedTable.DefaultNamed) _ _ hc fun t ht f hf =>
              ht.addField (ho f hf)
        | enumeration constants => exact hc
    | enumeration constants => cases other <;> exact defaultNamed_empty
  setOverride c wireName name hc := hc.mapFields fun _ ht => ht.modify wireName fun _ hf => hf
  erase c wireName hc := hc.mapFields fun _ ht => ht.erase wireName
  retype c source target asArray hc :=
    hc.mapFields fun _ ht => ht.map fun _ _ hf => hf.retype source target asArray

/-! ### Constants -/

/-- The constants have different names. -/
def Content.DistinctConstants (c : Content) : Prop := (c.constants.map (·.name)).Nodup

theorem nodup_adjoin {constants : List EnumConstant} (h : (constants.map (·.name)).Nodup)
    (c : EnumConstant) : ((EnumConstant.adjoin constants c).map (·.name)).Nodup := by
  unfold EnumConstant.adjoin
  split
  · exact h
  · rename_i hc
    have hnew : ∀ d ∈ constants, d.name ≠ c.name := by simpa using hc
    rw [List.map_append, List.nodup_append]
    refine ⟨h, by simp, ?_⟩
    simpa using hnew

theorem nodup_foldl_adjoin {constants : List EnumConstant} (h : (constants.map (·.name)).Nodup)
    (more : List EnumConstant) : ((more.foldl EnumConstant.adjoin constants).map (·.name)).Nodup :=
  List.foldlRecOn (motive := fun cs : List EnumConstant => (cs.map (·.name)).Nodup) _ _ h
    fun _ hcs c _ => nodup_adjoin hcs c

theorem contentInvariant_distinctConstants : ContentInvariant Content.DistinctConstants where
  emptyLike c := by cases c <;> exact List.nodup_nil
  declareEnum c constants hc := nodup_foldl_adjoin hc constants
  observe c key v nested hc := by cases c <;> exact hc
  merge c other hc := by
    cases c with
    | record fields => cases other <;> exact hc
    | enumeration own =>
        cases other with
        | record fields => exact hc
        | enumeration others => exact nodup_foldl_adjoin hc others
  setOverride c wireName name hc := by cases c <;> exact hc
  erase c wireName hc := by cases c <;> exact hc
  retype c source target asArray hc := by cases c <;> exact hc

namespace ClassGraph

/-! ### Bases of their own -/

section SelfBase

variable {g k : ClassGraph} {old new name sub base : String} {c other : ClassNode}

/-- No class is its own base. -/
def NoSelfBase (g : ClassGraph) : Prop := ∀ a, ¬ g.Derives a a

theorem NoSelfBase.mono (hg : g.NoSelfBase) (h : ∀ a, k.Derives a a → g.Derives a a) :
    k.NoSelfBase :=
  fun a hd => hg a (h a hd)

theorem KeepsLinks.noSelfBase (h : g.KeepsLinks k) (hg : g.NoSelfBase) : k.NoSelfBase :=
  hg.mono fun _ => h.derives_iff.1

theorem AddsLink.noSelfBase (h : AddsLink g k sub base) (hg : g.NoSelfBase) : k.NoSelfBase := by
  intro a hd
  rcases h.derives_cases hd with ⟨rfl, rfl⟩ | ⟨-, hd⟩
  · exact h.not_above .refl
  · exact hg a hd

theorem noSelfBase_setBase (hg : g.NoSelfBase) : (g.setBase sub base).NoSelfBase := by
  rcases g.setBase_cases sub base with he | hadd
  · rwa [he]
  · exact hadd.noSelfBase hg

theorem noSelfBase_merge (hg : g.NoSelfBase) : (g.merge name other).NoSelfBase := by
  rcases mergesLinks_mergeFrom g [] name other with h | ⟨sub, base, hadd, -⟩
  · exact hg.mono fun a hd => (h a).symm.trans hd
  · exact hadd.noSelfBase hg

theorem noSelfBase_absorb {other : ClassGraph} (hg : g.NoSelfBase) :
    (g.absorb other).NoSelfBase := by
  have hready : (other.nodes.foldl adoptEmpty g).NoSelfBase :=
    (keepsLinks_foldl keepsLinks_adoptEmpty _ g).noSelfBase hg
  exact List.foldlRecOn _ _ hready fun k hk c _ => noSelfBase_merge hk

/-- A redirected link comes from another class than the one that it leads to. -/
theorem noSelfBase_redirectBases (hg : g.NoSelfBase) (hn : g.Named) :
    (g.redirectBases old new).NoSelfBase := by
  intro a hd
  rcases (derives_redirectBases hn).1 hd with ⟨-, hne, rfl⟩ | ⟨hd, -⟩
  · exact hne rfl
  · exact hg a hd

theorem noSelfBase_rename? (hg : g.NoSelfBase) (hw : g.WellLinked)
    (h : g.rename? old new = some k) : k.NoSelfBase := by
  obtain ⟨⟨-, hnew, -⟩, rfl⟩ := rename?_eq_some_iff.1 h
  apply noSelfBase_redirectBases _ (named_rekey hw.named hnew)
  exact fun a hd => hg _ (derives_of_derives_rekey hw.resolved hnew hd)

theorem noSelfBase_remove? (hg : g.NoSelfBase) (h : g.remove? name = some (c, k)) :
    k.NoSelfBase :=
  hg.mono fun _ hd => ((derives_remove? h).1 hd).2.2

theorem noSelfBase_moveClass (hg : g.NoSelfBase) (hw : g.WellLinked) :
    (g.moveClass old new).NoSelfBase := by
  unfold moveClass
  split
  · exact hg
  · split
    · exact hg
    · split
      · have herased : (g.erase old).NoSelfBase := hg.mono fun _ hd => (derives_erase.1 hd).2
        exact noSelfBase_redirectBases (noSelfBase_merge herased)
          (named_mergeFrom _ _ _ (hw.named.erase old))
      · cases hk : g.rename? old new with
        | none => exact hg
        | some k => exact noSelfBase_rename? hg hw hk

theorem noSelfBase_edit (hg : g.NoSelfBase) (hw : g.WellLinked) (e : Edit) :
    (g.edit e).NoSelfBase := by
  cases e with
  | ensure package name => exact (keepsLinks_ensure g package name).noSelfBase hg
  | declareEnum package name constants =>
      exact (keepsLinks_declareEnum g package name constants).noSelfBase hg
  | build document package name => exact (keepsLinks_build g document package name).noSelfBase hg
  | merge target other => exact noSelfBase_merge hg
  | absorb other => exact noSelfBase_absorb hg
  | rename old new =>
      rw [edit]
      cases hk : g.rename? old new with
      | none => exact hg
      | some k => exact noSelfBase_rename? hg hw hk
  | remove name =>
      rw [edit]
      cases hk : g.remove? name with
      | none => exact hg
      | some r => exact noSelfBase_remove? hg hk
  | setBase sub base => exact noSelfBase_setBase hg
  | renameType old target =>
      exact (keepsLinks_retype _ _ _ _).noSelfBase (noSelfBase_moveClass hg hw)
  | renameField rule => exact (keepsLinks_renameField g rule).noSelfBase hg
  | deleteField rule => exact (keepsLinks_deleteField g rule).noSelfBase hg

end SelfBase

theorem noSelfBase_run (builtins : Builtins) (edits : List Edit) :
    ((new builtins).run edits).NoSelfBase := by
  have hnew : (new builtins).NoSelfBase := fun a hd => acyclic_new builtins a (.single hd)
  have hboth : ((new builtins).run edits).WellLinked ∧ ((new builtins).run edits).NoSelfBase := by
    apply run_induction (motive := fun g => g.WellLinked ∧ g.NoSelfBase)
    · exact fun g e hg => ⟨wellLinked_edit hg.1 e, noSelfBase_edit hg.2 hg.1 e⟩
    · exact ⟨wellLinked_new builtins, hnew⟩
  exact hboth.2

/-! ### All of it -/

/-- The graph is in order. -/
structure Consistent (g : ClassGraph) : Prop where
  name_eq ⦃name : String⦄ ⦃c : ClassNode⦄ (hc : g.find? name = some c) : c.name = name
  nodup_ids : (g.nodes.map (·.id)).Nodup
  id_lt : ∀ c ∈ g.nodes, c.id < g.nextId
  wireName_eq ⦃name key : String⦄ ⦃c : ClassNode⦄ ⦃f : Field⦄ (hc : g.find? name = some c)
    (hf : c.field? key = some f) : f.wireName = key
  defaultName_eq ⦃name key : String⦄ ⦃c : ClassNode⦄ ⦃f : Field⦄ (hc : g.find? name = some c)
    (hf : c.field? key = some f) : f.defaultName = Naming.fieldName key
  base_mem ⦃name base : String⦄ ⦃c : ClassNode⦄ (hc : g.find? name = some c)
    (hb : c.base = some base) : base ∈ g.names ∧ base ≠ name
  nodup_constants ⦃name : String⦄ ⦃c : ClassNode⦄ (hc : g.find? name = some c) :
    (c.constants.map (·.name)).Nodup

/-- Every graph that calls lead to from a new one is in order. Of the nodes and graphs that are
handed over to be merged, it is only asked that their fields have their default names: no operation
on fields makes another field. -/
theorem consistent_runCalls (builtins : Builtins) {calls : List Call}
    (hcalls : ∀ c ∈ calls, c.Admits Content.DefaultNamed) :
    ((new builtins).runCalls calls).Consistent := by
  have hkeyed := fieldsKeyed_runCalls builtins calls
  have hdefault := everyContent_runCalls_over contentInvariant_defaultNamed builtins hcalls
  have hconstants := everyContent_runCalls contentInvariant_distinctConstants builtins calls
  have hlinked := wellLinked_run builtins (calls.flatMap Call.edits)
  have hself := noSelfBase_run builtins (calls.flatMap Call.edits)
  have hnumbered := numbered_run builtins (calls.flatMap Call.edits)
  rw [← runCalls_eq_run] at hlinked hself hnumbered
  constructor
  case name_eq => exact hlinked.named
  case nodup_ids => exact hnumbered.nodup_ids
  case id_lt => exact fun c => hnumbered.id_lt
  case wireName_eq => exact fun name key c f hc hf => hkeyed hc hf
  case defaultName_eq =>
    intro name key c f hc hf
    have hf' : f.defaultName = Naming.fieldName f.wireName :=
      OrderedTable.DefaultNamed.get? (hdefault hc) hf
    rw [hf', hkeyed hc hf]
  case base_mem =>
    intro name base c hc hb
    have hd := (derives_iff_of_find? hc).2 hb
    refine ⟨hlinked.resolved hd, ?_⟩
    rintro rfl
    exact hself base hd
  case nodup_constants => exact fun name c hc => hconstants hc

/-- A constant is declared twice, a class takes in another one and the graph another graph, and a
class that comes with it is made the base of the first and then folded into it. -/
def takingInCalls : List Call :=
  [.edit (.build (.object [("a", .object [("b_c", .bool true)])]) "p" "R"),
    .edit (.declareEnum "p" "E" [⟨"X", none⟩, ⟨"X", some "x"⟩]),
    .edit (.merge "A" ((ClassNode.new 9 "q" "Z" true).observe "d" (.string "s") "D")),
    .edit (.absorb ((new ⟨"System", "string", "System"⟩).build
      (.object [("b_c", .array [.object []])]) "q" "R")),
    .edit (.setBase "A" "BC"), .applyRules ⟨.ofList [("BC", ⟨"A", true⟩)], ∅, [], []⟩]

theorem consistent_runCalls_takingInCalls :
    (∀ c ∈ takingInCalls, c.Admits Content.DefaultNamed) ∧
      ((new ⟨"java.lang", "String", "java"⟩).runCalls takingInCalls).Consistent := by
  have hcalls : ∀ c ∈ takingInCalls, c.Admits Content.DefaultNamed := by decide +kernel
  exact ⟨hcalls, consistent_runCalls _ hcalls⟩

end ClassGraph

end ClassInference
