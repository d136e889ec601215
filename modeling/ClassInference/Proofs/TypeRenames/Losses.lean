import ClassInference.Proofs.Fields.Gathered
import ClassInference.Proofs.Inheritance.Runs
import ClassInference.Proofs.TypeRenames.Effect
import Mathlib.Data.List.TakeWhile

/-!
# Fields that a fold loses

A class that is folded is taken out of the graph before its bases are merged. If the chains of the
two classes do not meet, everything above the folded class comes along. If they meet, the classes
above it are folded one by one into those below the old name, or into all ancestors of the target
where the old name is none of these; what there is no place for is left behind, and its fields are
lost unless some class that comes along owns fields of their names.
-/

namespace ClassInference

namespace ClassGraph

open Relation

variable {g : ClassGraph} {a b old new w : String} {target : TypeSpec} {origin : ClassNode}

/-- The classes above `new`, below `old` if that is one of them. -/
def below (g : ClassGraph) (old new : String) : List String :=
  (g.ancestors new).takeWhile (· ≠ old)

/-- A class is one of the two classes or lies above it, for both of them. -/
def ChainsMeet (g : ClassGraph) (old new : String) : Prop :=
  ∃ c ∈ old :: g.ancestors old, c ∈ new :: g.ancestors new

instance (g : ClassGraph) (old new : String) : Decidable (g.ChainsMeet old new) :=
  inferInstanceAs (Decidable (∃ c ∈ _, _))

/-- The classes above `old` that folding it into `new` leaves behind. -/
def leftBehind (g : ClassGraph) (old new : String) : List String :=
  if g.ChainsMeet old new then (g.ancestors old).drop (g.below old new).length else []

/-- The classes whose fields folding `old` into `new` brings together in `new`. -/
def broughtTogether (g : ClassGraph) (old new : String) : List String :=
  new :: g.below old new ++ old :: (g.ancestors old).take (g.below old new).length

/-! ### The graph without the class -/

theorem baseName?_erase_self (g : ClassGraph) (old : String) :
    (g.erase old).baseName? old = none := by
  rw [baseName?, find?_erase, if_pos rfl, Option.bind_none]

theorem ownNames_erase (g : ClassGraph) (old a : String) :
    (g.erase old).ownNames a = if a = old then [] else g.ownNames a := by
  rw [ownNames, content?, find?_erase]
  split
  · rfl
  · rfl

/-- The ancestors of a class end with the one that is taken out. -/
theorem Acyclic.ancestors_erase (hg : g.Acyclic) (ha : a ≠ old) :
    (g.erase old).ancestors a
      = (g.ancestors a).takeWhile (· ≠ old) ++ if old ∈ g.ancestors a then [old] else [] := by
  have herased : (g.erase old).Acyclic := acyclic_erase hg
  induction a using hg.induction with
  | root a hroot =>
      have hroot' : (g.erase old).baseName? a = none := by
        rwa [baseName?, find?_erase, if_neg ha]
      rw [ancestors_of_baseName? hroot, ancestors_of_baseName? hroot']
      rfl
  | derived a b hab ih =>
      rw [hg.ancestors_of_derives hab, herased.ancestors_of_derives (derives_erase.2 ⟨ha, hab⟩)]
      by_cases hb : b = old
      · subst hb
        rw [ancestors_of_baseName? (g.baseName?_erase_self b)]
        simp
      · rw [ih hb]
        simp [hb, Ne.symm hb]

theorem Acyclic.ancestors_erase_of_not_mem (hg : g.Acyclic) (ha : a ≠ old)
    (hold : old ∉ g.ancestors a) : (g.erase old).ancestors a = g.ancestors a := by
  rw [hg.ancestors_erase ha, if_neg hold, List.append_nil, List.takeWhile_eq_self_iff]
  intro b hb
  have hbold : b ≠ old := fun he => hold (he ▸ hb)
  simpa using hbold

/-- Nothing above a class changes when it is taken out. -/
theorem Acyclic.chain_erase (hg : g.Acyclic) (old : String) :
    (g.erase old).chain [] (g.baseName? old) = g.ancestors old := by
  cases hb : g.baseName? old with
  | none => rw [chain_none, ancestors_of_baseName? hb]
  | some b =>
      have hnot : old ∉ g.ancestors b := fun h => hg old (.head hb (mem_ancestors_iff.1 h).2)
      rw [chain_nil_some, hg.ancestors_of_derives hb,
        hg.ancestors_erase_of_not_mem (hg.ne hb).symm hnot]

/-! ### What comes along -/

theorem ne_of_mem_below (hb : b ∈ g.below old new) : b ≠ old ∧ b ∈ g.ancestors new :=
  ⟨by simpa using List.mem_takeWhile_imp hb, (List.takeWhile_prefix _).subset hb⟩

/-- What the target leads to when the class is out of the graph. -/
theorem Acyclic.provides_erase_iff (hg : g.Acyclic) (hne : new ≠ old) :
    (g.erase old).Provides new w ↔ ∃ b ∈ new :: g.below old new, w ∈ g.ownNames b := by
  have hlineage : (g.erase old).Provides new w ↔
      ∃ b ∈ new :: (g.erase old).ancestors new, w ∈ (g.erase old).ownNames b :=
    exists_congr fun b => and_congr_left fun _ => mem_lineage_iff.symm
  rw [hlineage, hg.ancestors_erase hne]
  constructor
  · rintro ⟨b, hb, hw⟩
    rw [ownNames_erase] at hw
    split at hw
    · simp at hw
    · rename_i hbold
      refine ⟨b, ?_, hw⟩
      rw [List.mem_cons, List.mem_append] at hb
      rcases hb with rfl | hb | hb
      · exact List.mem_cons_self
      · exact List.mem_cons_of_mem _ hb
      · split at hb
        · exact absurd (List.mem_singleton.1 hb) hbold
        · simp at hb
  · rintro ⟨b, hb, hw⟩
    have hbold : b ≠ old := by
      rcases List.mem_cons.1 hb with rfl | hb
      · exact hne
      · exact (ne_of_mem_below hb).1
    refine ⟨b, ?_, ?_⟩
    · rcases List.mem_cons.1 hb with rfl | hb
      · exact List.mem_cons_self
      · exact List.mem_cons_of_mem _ (List.mem_append_left _ hb)
    · rwa [ownNames_erase, if_neg hbold]

theorem mem_names_of_mem_ancestors (hr : g.Resolved) (h : b ∈ g.ancestors a) : b ∈ g.names := by
  obtain ⟨c, -, hcb⟩ := TransGen.tail'_iff.1 (mem_ancestors_iff.1 h).2
  exact hr hcb

/-- As many classes lie above the target as there are below the old name. -/
theorem Acyclic.height_erase (hg : g.Acyclic) (hr : g.Resolved) (hne : new ≠ old) :
    (g.erase old).height new = (g.below old new).length := by
  have hbelow : ∀ b ∈ g.below old new, b ∈ (g.erase old).names := by
    intro b hb
    obtain ⟨hbold, habove⟩ := ne_of_mem_below hb
    exact mem_names_erase.2 ⟨hbold, mem_names_of_mem_ancestors hr habove⟩
  have hend : (if old ∈ g.ancestors new then [old] else []).countP
      (· ∈ (g.erase old).names) = 0 := by
    split <;> simp [mem_names_erase]
  rw [height, hg.ancestors_erase hne, List.countP_append, hend, Nat.add_zero]
  exact List.countP_eq_length.2 fun b hb => by simpa using hbelow b hb

theorem Acyclic.runsFree_erase_iff (hg : g.Acyclic) (hr : g.Resolved) (hne : new ≠ old) :
    (g.erase old).RunsFree new (g.ancestors old) ↔ ¬ g.ChainsMeet old new := by
  rw [RunsFree, ChainsMeet]
  by_cases hold : old ∈ g.ancestors new
  · -- the chain of the target ends at the name that is gone
    have hgone : old ∉ (g.erase old).names := fun h => (mem_names_erase.1 h).1 rfl
    constructor
    · rintro ⟨hends, -⟩
      have hend : old ∈ (g.erase old).ancestors new := by
        rw [hg.ancestors_erase hne, if_pos hold]
        exact List.mem_append_right _ List.mem_cons_self
      exact absurd (hends old hend) hgone
    · intro hmeet
      exact absurd ⟨old, List.mem_cons_self, List.mem_cons_of_mem _ hold⟩ hmeet
  · have hends : ∀ b ∈ g.ancestors new, b ∈ (g.erase old).names := fun b hb =>
      mem_names_erase.2 ⟨fun he => hold (he ▸ hb), mem_names_of_mem_ancestors hr hb⟩
    rw [hg.ancestors_erase_of_not_mem hne hold]
    simp only [List.mem_cons, exists_eq_or_imp, not_or, not_exists, not_and]
    exact ⟨fun h => ⟨⟨hne.symm, hold⟩, h.2⟩, fun h => ⟨hends, h.2⟩⟩

theorem Acyclic.taken_erase (hg : g.Acyclic) (hr : g.Resolved) (hne : new ≠ old) :
    (g.erase old).taken new (g.ancestors old)
      = if g.ChainsMeet old new then (g.ancestors old).take (g.below old new).length
        else g.ancestors old := by
  unfold taken
  rw [hg.height_erase hr hne]
  by_cases hmeet : g.ChainsMeet old new
  · rw [if_neg (mt (hg.runsFree_erase_iff hr hne).1 (not_not.2 hmeet)), if_pos hmeet]
  · rw [if_pos ((hg.runsFree_erase_iff hr hne).2 hmeet), if_neg hmeet]

/-- What the target provides when the class has been merged into it. -/
theorem provides_merge_erase_iff (hg : g.Acyclic) (hr : g.Resolved) (hrecords : g.KeyedRecords)
    (horigin : g.find? old = some origin) (hne : new ≠ old) (hnew : new ∈ g.names) :
    ((g.erase old).merge new origin).Provides new w ↔
      (∃ b ∈ new :: g.below old new, w ∈ g.ownNames b) ∨ w ∈ g.ownNames old ∨
        ∃ b ∈ if g.ChainsMeet old new then (g.ancestors old).take (g.below old new).length
          else g.ancestors old, w ∈ g.ownNames b := by
  have hlink : origin.base = g.baseName? old := by rw [baseName?, horigin, Option.bind_some]
  have hchain : (g.erase old).chain [] origin.base = g.ancestors old := by
    rw [hlink, hg.chain_erase]
  have hother : ∀ b ∈ g.ancestors old, b ≠ old := fun b hb => (mem_ancestors_iff.1 hb).1
  have hpresent : ∀ b ∈ (g.erase old).chain [] origin.base, b ∈ (g.erase old).names := by
    rw [hchain]
    exact fun b hb => mem_names_erase.2 ⟨hother b hb, mem_names_of_mem_ancestors hr hb⟩
  have howned : (∃ b ∈ (g.erase old).taken new (g.ancestors old), w ∈ (g.erase old).ownNames b) ↔
      ∃ b ∈ (g.erase old).taken new (g.ancestors old), w ∈ g.ownNames b := by
    apply exists_congr
    intro b
    apply and_congr_right
    intro hb
    rw [ownNames_erase, if_neg (hother b (mem_of_mem_taken hb))]
  rw [merge, provides_mergeFrom_iff (acyclic_erase hg) (hrecords.erase old) (hrecords horigin)
    (mem_names_erase.2 ⟨hne, hnew⟩) (fun _ _ => List.not_mem_nil) hpresent, hchain, howned,
    hg.provides_erase_iff hne, hg.taken_erase hr hne, ownNames_of_find? horigin]

/-! ### Redirected and mapped -/

/-- Links to a name that is gone lead to nothing, before and after they are redirected. -/
theorem provides_redirectBases_iff (hn : g.Named) (hold : old ∉ g.names) :
    (g.redirectBases old new).Provides new w ↔ g.Provides new w := by
  have hown : (g.redirectBases old new).ownNames = g.ownNames := by
    funext a
    exact ownNames_eq_of_content? (congrFun (content?_redirectBases g old new) a)
  unfold Provides
  rw [hown]
  constructor
  · rintro ⟨b, hp, hb⟩
    refine ⟨b, ?_, hb⟩
    clear hb
    induction hp with
    | refl => exact .refl
    | tail _ hd ih =>
        rcases (derives_redirectBases hn).1 hd with ⟨-, -, rfl⟩ | ⟨hd, -⟩
        · exact .refl
        · exact ih.tail hd
  · rintro ⟨b, hp, hb⟩
    have hbold : b ≠ old := by
      rintro rfl
      exact hold (mem_names_of_mem_ownNames hb)
    refine ⟨b, ?_, hb⟩
    clear hb
    induction hp with
    | refl => exact .refl
    | @tail c d _ hd ih =>
        have hcold : c ≠ old := by
          rintro rfl
          exact hold hd.mem_names
        exact (ih hcold).tail ((derives_redirectBases hn).2 (.inr ⟨hd, hbold⟩))

theorem ownNames_renameType (g : ClassGraph) (old : String) (target : TypeSpec) :
    (g.renameType old target).ownNames = (g.moveClass old target.name).ownNames := by
  funext a
  rw [ownNames, content?_renameType, ownNames]
  cases (g.moveClass old target.name).content? a with
  | none => rfl
  | some c => simp [Content.fields_retype]

theorem derives_renameType_iff :
    (g.renameType old target).Derives a b ↔ (g.moveClass old target.name).Derives a b :=
  (keepsLinks_retype (g.moveClass old target.name) _ _ _).derives_iff

theorem provides_renameType_iff_moveClass :
    (g.renameType old target).Provides a w ↔ (g.moveClass old target.name).Provides a w := by
  have hderives : (g.renameType old target).Derives = (g.moveClass old target.name).Derives := by
    funext b c
    exact propext derives_renameType_iff
  rw [Provides, hderives, ownNames_renameType, Provides]

/-! ### What is kept below -/

theorem mem_ownNames_fold (ha : a ≠ old) (h : w ∈ g.ownNames a) :
    w ∈ (((g.erase old).merge new origin).redirectBases old new).ownNames a := by
  have hsame := congrFun (content?_redirectBases ((g.erase old).merge new origin) old new) a
  rw [ownNames_eq_of_content? hsame]
  apply mem_ownNames_mergeFrom
  rwa [ownNames_erase, if_neg ha]

/-- Only the links to the folded class change, and these lead to the target then. -/
theorem derives_fold (new : String) (origin : ClassNode) (hn : g.Named) (ha : a ≠ old)
    (h : g.Derives a b) :
    ((((g.erase old).merge new origin).redirectBases old new).Derives a b ∧ b ≠ old) ∨
      b = old ∧ (a = new ∨
        (((g.erase old).merge new origin).redirectBases old new).Derives a new) := by
  have hmerged : ((g.erase old).merge new origin).Derives a b :=
    (mergesLinks_mergeFrom _ _ _ _).derives (derives_erase.2 ⟨ha, h⟩)
  have hnamed : ((g.erase old).merge new origin).Named := named_mergeFrom _ _ _ (hn.erase old)
  by_cases hb : b = old
  · subst hb
    by_cases hanew : a = new
    · exact .inr ⟨rfl, .inl hanew⟩
    · exact .inr ⟨rfl, .inr ((derives_redirectBases hnamed).2 (.inl ⟨hmerged, hanew, rfl⟩))⟩
  · exact .inl ⟨(derives_redirectBases hnamed).2 (.inr ⟨hmerged, hb⟩), hb⟩

/-- If the target makes up for the folded class, then so it does for all that derive from it. -/
theorem provides_fold (hn : g.Named)
    (hfold : g.Provides old w →
      (((g.erase old).merge new origin).redirectBases old new).Provides new w)
    (ha : a ≠ old) (h : g.Provides a w) :
    (((g.erase old).merge new origin).redirectBases old new).Provides a w := by
  obtain ⟨b, hp, hw⟩ := h
  induction hp using ReflTransGen.head_induction_on with
  | refl => exact .of_own (mem_ownNames_fold ha hw)
  | head hlink hp ih =>
      rcases derives_fold new origin hn ha hlink with ⟨hlink, hne⟩ | ⟨rfl, rfl | hlink⟩
      · exact (ih hne).of_reflTransGen (.single hlink)
      · exact hfold ⟨b, hp, hw⟩
      · exact (hfold ⟨b, hp, hw⟩).of_reflTransGen (.single hlink)

/-! ### What is lost -/

/-- No class of `k` lost an effective field that it had in `g`, and `new` has those of `old`. -/
structure KeepsEffective (g k : ClassGraph) (old new : String) : Prop where
  kept : ∀ name ∈ k.names, ∀ w ∈ g.effectiveNames name, w ∈ k.effectiveNames name
  inherited : ∀ w ∈ g.effectiveNames old, w ∈ k.effectiveNames new

theorem provides_fold_iff (hg : g.Acyclic) (hw : g.WellLinked) (hrecords : g.KeyedRecords)
    (horigin : g.find? old = some origin) (hne : new ≠ old) (hnew : new ∈ g.names) :
    (((g.erase old).merge new origin).redirectBases old new).Provides new w ↔
      (∃ b ∈ g.broughtTogether old new, w ∈ g.ownNames b) ∨
        ¬ g.ChainsMeet old new ∧ g.Provides old w := by
  have hgone : old ∉ ((g.erase old).merge new origin).names := by
    rw [merge, names_mergeFrom]
    exact fun h => (mem_names_erase.1 h).1 rfl
  have hlineage : g.Provides old w ↔ ∃ b ∈ old :: g.ancestors old, w ∈ g.ownNames b :=
    exists_congr fun b => and_congr_left fun _ => mem_lineage_iff.symm
  have hnamed : ((g.erase old).merge new origin).Named :=
    named_mergeFrom _ _ _ (hw.named.erase old)
  rw [provides_redirectBases_iff hnamed hgone,
    provides_merge_erase_iff hg hw.resolved hrecords horigin hne hnew, hlineage, broughtTogether]
  by_cases hmeet : g.ChainsMeet old new
  · simp [hmeet, or_and_right, exists_or, or_assoc]
  · simp only [hmeet, if_false, not_false_iff, true_and, List.mem_append, List.mem_cons,
      or_and_right, exists_or, exists_eq_left]
    constructor
    · rintro (h | h | h)
      · exact .inl (.inl h)
      · exact .inl (.inr (.inl h))
      · exact .inr (.inr h)
    · rintro ((h | h | ⟨b, hb, hw⟩) | h | h)
      · exact .inl h
      · exact .inr (.inl h)
      · exact .inr (.inr ⟨b, List.mem_of_mem_take hb, hw⟩)
      · exact .inr (.inl h)
      · exact .inr (.inr h)

/-- What `old` provides comes together in the target unless a class that is left behind owns it. -/
theorem forall_provides_iff :
    (∀ w, g.Provides old w → (∃ b ∈ g.broughtTogether old new, w ∈ g.ownNames b) ∨
        ¬ g.ChainsMeet old new ∧ g.Provides old w) ↔
      ∀ a ∈ g.leftBehind old new, ∀ w ∈ g.ownNames a,
        ∃ b ∈ g.broughtTogether old new, w ∈ g.ownNames b := by
  unfold leftBehind
  by_cases hmeet : g.ChainsMeet old new
  · simp only [hmeet, if_true, not_true, false_and, or_false]
    constructor
    · intro h a ha w hw
      exact h w ⟨a, mem_lineage_iff.1 (List.mem_cons_of_mem _ (List.mem_of_mem_drop ha)), hw⟩
    · rintro h w ⟨b, hp, hw⟩
      have hb := mem_lineage_iff.2 hp
      rw [← List.take_append_drop (g.below old new).length (g.ancestors old), ← List.cons_append,
        List.mem_append] at hb
      rcases hb with hb | hb
      · exact ⟨b, List.mem_append_right _ hb, hw⟩
      · exact h b hb w hw
  · simp only [hmeet, if_false, List.not_mem_nil, false_imp_iff, implies_true, iff_true]
    exact fun w hw => .inr ⟨not_false, hw⟩

theorem keepsEffective_renameType_iff (hg : g.Acyclic) (hw : g.WellLinked)
    (hrecords : g.KeyedRecords) (hbuiltin : g.isBuiltin old = false)
    (horigin : g.find? old = some origin) (hnew : target.name ∈ g.names)
    (hne : old ≠ target.name) :
    g.KeepsEffective (g.renameType old target) old target.name ↔
      ∀ a ∈ g.leftBehind old target.name, ∀ w ∈ g.ownNames a,
        ∃ b ∈ g.broughtTogether old target.name, w ∈ g.ownNames b := by
  have hkeyed : g.FieldsKeyed := fun _ _ hc => (hrecords hc).2
  have hkeyed' : (g.renameType old target).FieldsKeyed :=
    FieldsKeyed.edit hkeyed (.renameType old target)
  have hmove := moveClass_of_mem_names hbuiltin hne horigin hnew
  have hprovides : ∀ {a w}, w ∈ (g.renameType old target).effectiveNames a ↔
      (((g.erase old).merge target.name origin).redirectBases old target.name).Provides a w := by
    intro a w
    rw [mem_effectiveNames_iff hkeyed', provides_renameType_iff_moveClass, hmove]
  have hinherited : (∀ w ∈ g.effectiveNames old,
      w ∈ (g.renameType old target).effectiveNames target.name) ↔
      ∀ a ∈ g.leftBehind old target.name, ∀ w ∈ g.ownNames a,
        ∃ b ∈ g.broughtTogether old target.name, w ∈ g.ownNames b := by
    rw [← forall_provides_iff]
    simp only [hprovides, mem_effectiveNames_iff hkeyed,
      provides_fold_iff hg hw hrecords horigin hne.symm hnew]
  rw [← hinherited]
  refine ⟨fun h => h.inherited, fun h => ⟨?_, h⟩⟩
  intro name hname w hw'
  have hold : name ≠ old := by
    rw [names_renameType, hmove, names_folded, List.mem_filter] at hname
    simpa using hname.2
  rw [hprovides]
  refine provides_fold hw.named ?_ hold ((mem_effectiveNames_iff hkeyed).1 hw')
  intro hp
  exact hprovides.1 (h w ((mem_effectiveNames_iff hkeyed).2 hp))

/-- In a graph that calls lead to, with acyclic inheritance and without enumerations, folding a
class into another one loses no effective field exactly if every class that is left behind owns only
fields of names that a class that comes along owns too. -/
theorem keepsEffective_runCalls_iff {builtins : Builtins} {calls : List Call}
    (hrun : (ClassGraph.new builtins).runCalls calls = g) (hg : g.Acyclic)
    (hrecords : g.RecordsOnly) (hbuiltin : g.isBuiltin old = false) (hold : old ∈ g.names)
    (hnew : target.name ∈ g.names) (hne : old ≠ target.name) :
    g.KeepsEffective (g.renameType old target) old target.name ↔
      ∀ a ∈ g.leftBehind old target.name, ∀ w ∈ g.ownNames a,
        ∃ b ∈ g.broughtTogether old target.name, w ∈ g.ownNames b := by
  have hkeyed : g.FieldsKeyed := hrun ▸ fieldsKeyed_runCalls builtins calls
  have hlinked : g.WellLinked := by
    rw [← hrun, runCalls_eq_run]
    exact wellLinked_run builtins _
  obtain ⟨origin, horigin⟩ := Option.isSome_iff_exists.1 (find?_isSome_iff.2 hold)
  exact keepsEffective_renameType_iff hg hlinked (fun _ _ hc => ⟨hrecords hc, hkeyed hc⟩) hbuiltin
    horigin hnew hne

instance (g : ClassGraph) : Decidable g.RecordsOnly :=
  decidable_of_iff (∀ c ∈ g.nodes, c.content.isEnumeration = false) <| by
    constructor
    · intro h n c hc
      exact h c (OrderedTable.mem_values_iff.2 ⟨n, hc⟩)
    · intro h c hc
      obtain ⟨n, hn⟩ := OrderedTable.mem_values_iff.1 hc
      exact h hn

/-- Three classes, each with a field of its own. -/
def unrelatedCalls : List Call :=
  [.edit (.build (.object [("g", .ofNat 1)]) "p" "G"),
    .edit (.build (.object [("f", .ofNat 1)]) "p" "F"),
    .edit (.build (.object [("t", .ofNat 1)]) "p" "T")]

/-- `F` and `T` both derive from `G`. -/
def siblingCalls : List Call :=
  unrelatedCalls ++ [.edit (.setBase "F" "G"), .edit (.setBase "T" "G")]

/-- Siblings meet in their base, and it is not left behind. -/
theorem keepsEffective_siblingCalls :
    let g := (ClassGraph.new ⟨"java.lang", "String", "java"⟩).runCalls siblingCalls
    g.ChainsMeet "F" "T" ∧ g.KeepsEffective (g.renameType "F" ⟨"T", false⟩) "F" "T" := by
  intro g
  have hmeet : g.ChainsMeet "F" "T" := by decide +kernel
  have hg : g.Acyclic := by decide +kernel
  have hrecords : g.RecordsOnly := by decide +kernel
  have hbuiltin : g.isBuiltin "F" = false := by decide +kernel
  have hold : "F" ∈ g.names := by decide +kernel
  have hnew : TypeSpec.name ⟨"T", false⟩ ∈ g.names := by decide +kernel
  have hbehind : g.leftBehind "F" "T" = [] := by decide +kernel
  refine ⟨hmeet,
    (keepsEffective_runCalls_iff rfl hg hrecords hbuiltin hold hnew (by decide)).2 ?_⟩
  intro a ha
  rw [hbehind] at ha
  exact absurd ha List.not_mem_nil

/-- `T` derives from `F` and `F` from `G`. -/
def lineCalls : List Call :=
  unrelatedCalls ++ [.edit (.setBase "T" "F"), .edit (.setBase "F" "G")]

/-- A class that is folded into one that derives from it leaves its base behind. -/
theorem not_keepsEffective_lineCalls :
    let g := (ClassGraph.new ⟨"java.lang", "String", "java"⟩).runCalls lineCalls
    (g.Acyclic ∧ g.RecordsOnly ∧ g.isBuiltin "F" = false ∧ "F" ∈ g.names ∧ "T" ∈ g.names) ∧
      ("g" ∈ g.effectiveNames "F" ∧ "g" ∈ g.effectiveNames "T" ∧
        (g.renameType "F" ⟨"T", false⟩).effectiveNames "T" = ["t", "f"]) ∧
      ¬ g.KeepsEffective (g.renameType "F" ⟨"T", false⟩) "F" "T" := by
  intro g
  have hbefore : "g" ∈ g.effectiveNames "F" ∧ "g" ∈ g.effectiveNames "T" := by decide +kernel
  have hafter : (g.renameType "F" ⟨"T", false⟩).effectiveNames "T" = ["t", "f"] := by
    decide +kernel
  refine ⟨by decide +kernel, ⟨hbefore.1, hbefore.2, hafter⟩, fun h => ?_⟩
  have hkept := h.inherited "g" hbefore.1
  rw [hafter] at hkept
  exact absurd hkept (by decide)

end ClassGraph

end ClassInference
