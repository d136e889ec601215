import ClassInference.Proofs.Edits
import ClassInference.Proofs.Inheritance.Merging

/-!
# Contents along a run

What every operation on the content of a node keeps, all edits keep in all nodes: they move and link
the nodes, and change contents by these operations alone. Contents come in from outside where a
node or a graph is handed over to be merged; what these have to be like is a second property.
-/

namespace ClassInference

theorem Content.isEnumeration_mapFields (F : OrderedTable Field → OrderedTable Field)
    (c : Content) : (c.mapFields F).isEnumeration = c.isEnumeration := by
  cases c <;> rfl

theorem Content.constants_mapFields (F : OrderedTable Field → OrderedTable Field) (c : Content) :
    (c.mapFields F).constants = c.constants := by
  cases c <;> rfl

/-- The property holds of fresh contents, and every operation that a graph carries out on the
content of a node keeps it. -/
structure ContentInvariant (Q : Content → Prop) : Prop where
  emptyLike : ∀ c : Content, Q c.emptyLike
  declareEnum : ∀ (c : Content) (constants : List EnumConstant), Q c →
    Q (.enumeration (constants.foldl EnumConstant.adjoin c.constants))
  observe : ∀ (c : Content) (key : String) (v : Json.Value) (nested : String), Q c →
    Q (c.mapFields fun fields => (fields.ensure key (.new key)).modify key (·.observe v nested))
  merge : ∀ c other : Content, Q c → Q (c.merge other)
  setOverride : ∀ (c : Content) (wireName name : String), Q c →
    Q (c.mapFields (·.modify wireName (·.setOverride name)))
  erase : ∀ (c : Content) (wireName : String), Q c → Q (c.mapFields (·.erase wireName))
  retype : ∀ (c : Content) (source target : TypeRef) (asArray : Bool), Q c →
    Q (c.mapFields (·.map fun _ f => f.retype source target asArray))

/-- As a content invariant, but merging keeps the property only if the merged content has the
property `A`, as every content of the graph itself has. -/
structure ContentInvariantOver (A Q : Content → Prop) : Prop where
  admits : ∀ c : Content, Q c → A c
  emptyLike : ∀ c : Content, Q c.emptyLike
  declareEnum : ∀ (c : Content) (constants : List EnumConstant), Q c →
    Q (.enumeration (constants.foldl EnumConstant.adjoin c.constants))
  observe : ∀ (c : Content) (key : String) (v : Json.Value) (nested : String), Q c →
    Q (c.mapFields fun fields => (fields.ensure key (.new key)).modify key (·.observe v nested))
  merge : ∀ c other : Content, Q c → A other → Q (c.merge other)
  setOverride : ∀ (c : Content) (wireName name : String), Q c →
    Q (c.mapFields (·.modify wireName (·.setOverride name)))
  erase : ∀ (c : Content) (wireName : String), Q c → Q (c.mapFields (·.erase wireName))
  retype : ∀ (c : Content) (source target : TypeRef) (asArray : Bool), Q c →
    Q (c.mapFields (·.map fun _ f => f.retype source target asArray))

theorem ContentInvariant.over {Q : Content → Prop} (hQ : ContentInvariant Q) :
    ContentInvariantOver (fun _ => True) Q where
  admits _ _ := trivial
  emptyLike := hQ.emptyLike
  declareEnum := hQ.declareEnum
  observe := hQ.observe
  merge c other hc _ := hQ.merge c other hc
  setOverride := hQ.setOverride
  erase := hQ.erase
  retype := hQ.retype

/-- Merging keeps the property if the merged content has the property `A`, as every content with the
property has. -/
structure MergeInvariant (A Q : Content → Prop) : Prop where
  admits : ∀ c : Content, Q c → A c
  merge : ∀ c other : Content, Q c → A other → Q (c.merge other)

theorem ContentInvariantOver.merges {A Q : Content → Prop} (hQ : ContentInvariantOver A Q) :
    MergeInvariant A Q :=
  ⟨hQ.admits, hQ.merge⟩

/-- The contents that an edit brings in have the property. -/
def Edit.Admits (A : Content → Prop) : Edit → Prop
  | .merge _ other => A other.content
  | .absorb other => ∀ c ∈ other.nodes, A c.content
  | _ => True

/-- The contents that a call brings in have the property. -/
def Call.Admits (A : Content → Prop) : Call → Prop
  | .edit e => e.Admits A
  | .applyRules _ => True

section Decidable

variable {A : Content → Prop} [DecidablePred A]

instance : (e : Edit) → Decidable (e.Admits A)
  | .merge _ other => inferInstanceAs (Decidable (A other.content))
  | .absorb other => inferInstanceAs (Decidable (∀ c ∈ other.nodes, A c.content))
  | .ensure _ _ | .declareEnum _ _ _ | .build _ _ _ | .rename _ _ | .remove _ | .setBase _ _
  | .renameType _ _ | .renameField _ | .deleteField _ => isTrue trivial

instance : (c : Call) → Decidable (c.Admits A)
  | .edit e => inferInstanceAs (Decidable (e.Admits A))
  | .applyRules _ => isTrue trivial

end Decidable

theorem Call.Admits.edits {A : Content → Prop} {c : Call} (hc : c.Admits A) :
    ∀ e ∈ c.edits, e.Admits A := by
  cases c with
  | edit e =>
      intro e' he'
      rw [List.mem_singleton.1 he']
      exact hc
  | applyRules rules =>
      intro e he
      simp only [Call.edits, RuleSet.edits, List.mem_append, List.mem_map] at he
      rcases he with ((⟨_, _, rfl⟩ | ⟨_, _, rfl⟩) | ⟨_, _, rfl⟩) | ⟨_, _, rfl⟩ <;> exact trivial

theorem Call.admits_true (c : Call) : c.Admits fun _ => True := by
  cases c with
  | edit e =>
      cases e with
      | absorb other => exact fun _ _ => trivial
      | _ => exact trivial
  | applyRules rules => exact trivial

namespace ClassGraph

/-- The property holds of the content of every node. -/
def EveryContent (g : ClassGraph) (Q : Content → Prop) : Prop := g.Every fun _ c => Q c.content

variable {g : ClassGraph} {A Q : Content → Prop} {other : ClassNode}

theorem EveryContent.build (hQ : ContentInvariantOver A Q) (hg : g.EveryContent Q)
    (document : Json.Value) (package name : String) :
    (g.build document package name).EveryContent Q := by
  apply buildValue_induction (motive := (EveryContent · Q)) _ _ hg
  · intro k name hk
    exact hk.ensure (hQ.emptyLike (.record ∅))
  · intro k name key v hk
    exact hk.modify (fun _ c hc => hQ.observe c.content key v _ hc) name

/-- The next content to be merged, if there is one, is that of a node of the graph. -/
theorem EveryContent.mergeFrom (hQ : MergeInvariant A Q) (hg : g.EveryContent Q)
    (ho : A other.content) (met : List String) (target : String) :
    (g.mergeFrom met target other).EveryContent Q := by
  have hmerged : ∀ {g : ClassGraph} {other : ClassNode}, g.EveryContent Q → A other.content →
      ∀ target, (g.modify target (·.mergeContent other)).EveryContent Q := fun hg ho target =>
    hg.modify (fun _ c hc => hQ.merge c.content _ hc ho) target
  fun_induction ClassGraph.mergeFrom g met target other with
  | case1 => exact hg
  | case2 => exact hg
  | case3 => exact hmerged hg ho _
  | case4 => exact hmerged hg ho _
  | case5 g met target other _ _ _ _ _ _ _ _ _ base hbase _ ih =>
      have hm := hmerged hg ho target
      exact ih hm (hQ.admits _ (hm hbase))
  | case6 => exact (hmerged hg ho _).setBase (fun _ _ _ hc => hc) _ _
  | case7 => exact hmerged hg ho _

theorem EveryContent.merge (hQ : MergeInvariant A Q) (hg : g.EveryContent Q)
    (ho : A other.content) (target : String) : (g.merge target other).EveryContent Q :=
  hg.mergeFrom hQ ho [] target

theorem EveryContent.adoptEmpty (hQ : ContentInvariantOver A Q) (hg : g.EveryContent Q)
    (c : ClassNode) : (g.adoptEmpty c).EveryContent Q := by
  unfold ClassGraph.adoptEmpty
  split
  · exact hg
  · have hpresent : (g.ensure c.package c.name).EveryContent Q :=
      hg.ensure (hQ.emptyLike (.record ∅))
    exact hpresent.modify (fun _ _ _ => hQ.emptyLike c.content) c.name

theorem EveryContent.absorb (hQ : ContentInvariantOver A Q) (hg : g.EveryContent Q)
    {other : ClassGraph} (ho : ∀ c ∈ other.nodes, A c.content) :
    (g.absorb other).EveryContent Q := by
  have hready : (other.nodes.foldl ClassGraph.adoptEmpty g).EveryContent Q :=
    List.foldlRecOn (motive := (EveryContent · Q)) _ _ hg fun k hk c _ => hk.adoptEmpty hQ c
  exact List.foldlRecOn (motive := (EveryContent · Q)) _ _ hready fun k hk c hc =>
    hk.merge hQ.merges (ho c hc) c.name

theorem EveryContent.moveClass (hQ : MergeInvariant A Q) (hg : g.EveryContent Q)
    (old new : String) : (g.moveClass old new).EveryContent Q := by
  unfold ClassGraph.moveClass
  split
  · exact hg
  · split
    · exact hg
    · split
      · rename_i origin ho _
        have herased : (g.erase old).EveryContent Q := hg.erase old
        have hmerged := herased.merge hQ (hQ.admits _ (hg ho)) new
        exact hmerged.redirectBases (fun _ _ _ hc => hc) old new
      · cases hk : g.rename? old new with
        | none => exact hg
        | some k => exact hg.rename? (fun _ _ _ hc => hc) (fun _ hc => hc) hk

/-- Whatever all operations on contents keep, an edit keeps in every node. -/
theorem EveryContent.edit (hQ : ContentInvariantOver A Q) (hg : g.EveryContent Q) {e : Edit}
    (he : e.Admits A) : (g.edit e).EveryContent Q := by
  cases e with
  | ensure package name => exact hg.ensure (hQ.emptyLike (.record ∅))
  | declareEnum package name constants =>
      have hpresent : (g.ensure package name).EveryContent Q := hg.ensure (hQ.emptyLike (.record ∅))
      exact hpresent.modify (fun _ c hc => hQ.declareEnum c.content constants hc) name
  | build document package name => exact hg.build hQ document package name
  | merge target other => exact hg.merge hQ.merges he target
  | absorb other => exact hg.absorb hQ he
  | rename old new =>
      rw [ClassGraph.edit]
      cases hk : g.rename? old new with
      | none => exact hg
      | some k => exact hg.rename? (fun _ _ _ hc => hc) (fun _ hc => hc) hk
  | remove name =>
      rw [ClassGraph.edit]
      cases hk : g.remove? name with
      | none => exact hg
      | some r => exact hg.remove? (fun _ _ _ hc => hc) hk
  | setBase sub base => exact hg.setBase (fun _ _ _ hc => hc) sub base
  | renameType old target =>
      exact (hg.moveClass hQ.merges old target.name).mapNodes fun _ c hc =>
        hQ.retype c.content _ _ _ hc
  | renameField rule =>
      rw [ClassGraph.edit, renameField?]
      split
      · exact hg.modify (fun _ c hc => hQ.setOverride c.content _ _ hc) _
      · exact hg
  | deleteField rule =>
      rw [ClassGraph.edit, deleteField?]
      split
      · exact hg.modify (fun _ c hc => hQ.erase c.content _ hc) _
      · exact hg

theorem EveryContent.run (hQ : ContentInvariantOver A Q) (hg : g.EveryContent Q)
    {edits : List Edit} (he : ∀ e ∈ edits, e.Admits A) : (g.run edits).EveryContent Q :=
  List.foldlRecOn (motive := (EveryContent · Q)) _ _ hg fun _ hk e hmem => hk.edit hQ (he e hmem)

/-- Every graph that calls lead to from a new one has the property in every node, as long as what
the calls bring in can be merged. -/
theorem everyContent_runCalls_over (hQ : ContentInvariantOver A Q) (builtins : Builtins)
    {calls : List Call} (hcalls : ∀ c ∈ calls, c.Admits A) :
    ((ClassGraph.new builtins).runCalls calls).EveryContent Q := by
  have hnew : (ClassGraph.new builtins).EveryContent Q :=
    every_new fun _ => hQ.emptyLike (.record ∅)
  rw [runCalls_eq_run]
  apply hnew.run hQ
  intro e he
  obtain ⟨c, hc, hmem⟩ := List.mem_flatMap.1 he
  exact (hcalls c hc).edits e hmem

/-- Every graph that calls lead to from a new one has the property in every node. -/
theorem everyContent_runCalls (hQ : ContentInvariant Q) (builtins : Builtins) (calls : List Call) :
    ((ClassGraph.new builtins).runCalls calls).EveryContent Q :=
  everyContent_runCalls_over hQ.over builtins fun c _ => c.admits_true

end ClassGraph

end ClassInference
