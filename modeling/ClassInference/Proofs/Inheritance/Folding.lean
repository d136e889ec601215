import ClassInference.Proofs.Inheritance.Moving

/-!
# Folded classes

Folding a class into another one: the class is taken out, merged into the target, and its heirs are
redirected to the target. Folding a class into one that derives from it directly closes no cycle.
Folding it into one that derives from it through a class between always does, because the class
between then derives from the one below it.
-/

namespace ClassInference

namespace ClassGraph

open Relation

variable {g : ClassGraph} {a b old new : String} {origin : ClassNode}

/-- Moving the class `old` to `new` folds it into a class that derives from it, and not directly. -/
def FoldsDistantAncestor (g : ClassGraph) (old new : String) : Prop :=
  g.isBuiltin old = false ∧ old ∈ g.names ∧ old ∈ g.ancestors new ∧ g.baseName? new ≠ some old

instance (g : ClassGraph) (old new : String) : Decidable (g.FoldsDistantAncestor old new) :=
  inferInstanceAs (Decidable (_ ∧ _ ∧ _ ∧ _))

/-- Merging adds nothing between a class and one that has been taken out of the graph. -/
theorem transGen_merge_erase_iff (hg : g.Acyclic) (ho : g.find? old = some origin) :
    TransGen ((g.erase old).merge new origin).Derives new old ↔ TransGen g.Derives new old := by
  have hm : MergesLinks (g.erase old) ((g.erase old).merge new origin) origin :=
    mergesLinks_mergeFrom _ _ _ _
  have herase : ∀ {a b}, (g.erase old).Derives a b → g.Derives a b := fun hd =>
    (derives_erase.1 hd).2
  constructor
  · intro hp
    rcases hm with h | ⟨sub, base, hadd, -, first, hfirst, hup⟩
    · exact TransGen.mono (fun a b hd => herase ((h a).symm.trans hd)) _ _ hp
    · rcases hadd.transGen_cases hp with hp | ⟨-, hbase⟩
      · exact TransGen.mono (fun _ _ hd => herase hd) _ _ hp
      · -- the new base lies above `old`, which lies above nothing that derives from it
        have hof : g.Derives old first := (derives_iff_of_find? ho).2 hfirst
        have hback : ReflTransGen g.Derives first old :=
          ReflTransGen.mono (fun _ _ hd => herase hd) _ _ (hup.trans hbase)
        exact absurd (.head' hof hback) (hg old)
  · intro hp
    exact TransGen.mono (fun _ _ hd => hm.derives hd) _ _ (hg.transGen_erase hp)

theorem derives_merge_erase_iff (hne : new ≠ old) :
    ((g.erase old).merge new origin).Derives new old ↔ g.Derives new old := by
  have hm : MergesLinks (g.erase old) ((g.erase old).merge new origin) origin :=
    mergesLinks_mergeFrom _ _ _ _
  constructor
  · intro hd
    rcases hm.derives_cases hd with hd | hold
    · exact (derives_erase.1 hd).2
    · exact absurd rfl (mem_names_erase.1 hold).1
  · intro hd
    exact hm.derives (derives_erase.2 ⟨hne, hd⟩)

theorem acyclic_fold_iff (hg : g.Acyclic) (hn : g.Named) (ho : g.find? old = some origin)
    (hne : new ≠ old) :
    (((g.erase old).merge new origin).redirectBases old new).Acyclic ↔
      (TransGen g.Derives new old → g.Derives new old) := by
  have hmerged : ((g.erase old).merge new origin).Acyclic := acyclic_merge (acyclic_erase hg)
  have hnamed : ((g.erase old).merge new origin).Named :=
    named_mergeFrom _ _ _ (hn.erase old)
  rw [acyclic_redirectBases_iff hmerged hnamed, transGen_merge_erase_iff hg ho,
    derives_merge_erase_iff hne]

theorem wellLinked_fold (hw : g.WellLinked) (hnew : new ∈ g.names) (hne : new ≠ old) :
    (((g.erase old).merge new origin).redirectBases old new).WellLinked := by
  have hnamed : ((g.erase old).merge new origin).Named :=
    named_mergeFrom _ _ _ (hw.named.erase old)
  refine ⟨named_redirectBases hnamed, ?_⟩
  intro a b hd
  rw [names_redirectBases, merge, names_mergeFrom, mem_names_erase]
  rcases (derives_redirectBases hnamed).1 hd with ⟨-, -, rfl⟩ | ⟨hd, hb⟩
  · exact ⟨hne, hnew⟩
  · refine ⟨hb, ?_⟩
    rcases (mergesLinks_mergeFrom (g.erase old) [] new origin).derives_cases hd with hd | hb
    · exact hw.resolved (derives_erase.1 hd).2
    · exact (mem_names_erase.1 hb).2

/-- Moving a class closes a cycle exactly where it folds a distant ancestor. -/
theorem acyclic_moveClass_iff (hg : g.Acyclic) (hw : g.WellLinked) :
    (g.moveClass old new).Acyclic ↔ ¬ g.FoldsDistantAncestor old new := by
  unfold moveClass FoldsDistantAncestor
  rw [mem_ancestors_iff]
  split
  · rename_i h
    rw [Bool.or_eq_true, beq_iff_eq] at h
    rcases h with hb | rfl
    · simp [hg, hb]
    · simp [hg]
  · rename_i h
    rw [Bool.or_eq_true, not_or, beq_iff_eq, Bool.not_eq_true] at h
    obtain ⟨hb, hne⟩ := h
    split
    · rename_i hf
      simp [hg, find?_eq_none_iff.1 hf]
    · rename_i origin hf
      split
      · rename_i hc
        rw [acyclic_fold_iff hg hw.named hf (Ne.symm hne)]
        simp [hb, hne, mem_names_of_find? hf, Derives]
      · rename_i hc
        have hnone : g.baseName? new = none := by
          rw [baseName?, find?_eq_none_iff.2 (mt contains_iff.2 hc), Option.bind_none]
        have hnot : ¬ TransGen g.Derives new old := not_transGen_of_baseName? hnone
        cases hk : g.rename? old new with
        | none => simp [hg, hnot]
        | some k => simp [acyclic_rename? hg hw hk, hnot]

theorem wellLinked_moveClass (hw : g.WellLinked) : (g.moveClass old new).WellLinked := by
  unfold moveClass
  split
  · exact hw
  · rename_i h
    rw [Bool.or_eq_true, not_or, beq_iff_eq] at h
    split
    · exact hw
    · split
      · rename_i hc
        exact wellLinked_fold hw (contains_iff.1 hc) (Ne.symm h.2)
      · cases hk : g.rename? old new with
        | none => exact hw
        | some k => exact wellLinked_rename? hw hk

theorem keepsLinks_retype (g : ClassGraph) (source target : TypeRef) (asArray : Bool) :
    g.KeepsLinks (g.mapNodes (·.retype source target asArray)) := by
  apply keepsLinks_mapNodes <;> intro c <;> rfl

theorem acyclic_renameType_iff {target : TypeSpec} (hg : g.Acyclic) (hw : g.WellLinked) :
    (g.renameType old target).Acyclic ↔ ¬ g.FoldsDistantAncestor old target.name := by
  rw [← acyclic_moveClass_iff hg hw]
  have hk : (g.moveClass old target.name).KeepsLinks (g.renameType old target) :=
    keepsLinks_retype _ _ _ _
  constructor
  · intro hr
    exact hr.mono fun _ _ => hk.derives_iff.2
  · exact hk.acyclic

theorem wellLinked_renameType {target : TypeSpec} (hw : g.WellLinked) :
    (g.renameType old target).WellLinked :=
  (keepsLinks_retype _ _ _ _).wellLinked (wellLinked_moveClass hw)

end ClassGraph

end ClassInference
