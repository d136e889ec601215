import ClassInference.Proofs.Inheritance.Redirecting

/-!
# Classes that go or are renamed

Removing a class drops the links to it, renaming a class in place carries them along. Neither closes
a cycle or leaves a link that leads nowhere, and no more do setting a base and merging.
-/

namespace ClassInference

namespace ClassGraph

open Relation

variable {g k : ClassGraph} {a b old new name sub base : String} {other c : ClassNode}

/-- Nodes stand under their names, and base links lead to nodes. -/
structure WellLinked (g : ClassGraph) : Prop where
  named : g.Named
  resolved : g.Resolved

theorem KeepsLinks.wellLinked (h : g.KeepsLinks k) (hg : g.WellLinked) : k.WellLinked :=
  ⟨h.named hg.named, h.resolved hg.resolved⟩

theorem wellLinked_setBase (hg : g.WellLinked) : (g.setBase sub base).WellLinked := by
  refine ⟨hg.named.setBase (fun _ _ _ hc => hc) sub base, ?_⟩
  intro a b hd
  rw [names_setBase]
  rcases g.setBase_cases sub base with he | hadd
  · rw [he] at hd
    exact hg.resolved hd
  · rcases hadd.derives_cases hd with ⟨-, rfl⟩ | ⟨-, hd⟩
    · exact hadd.mem_names
    · exact hg.resolved hd

theorem acyclic_setBase (hg : g.Acyclic) : (g.setBase sub base).Acyclic := by
  rcases g.setBase_cases sub base with he | hadd
  · rwa [he]
  · exact hadd.acyclic hg

theorem wellLinked_merge (hg : g.WellLinked) : (g.merge name other).WellLinked := by
  refine ⟨named_mergeFrom _ _ _ hg.named, ?_⟩
  intro a b hd
  rw [merge, names_mergeFrom]
  rcases (mergesLinks_mergeFrom g [] name other).derives_cases hd with hd | hb
  · exact hg.resolved hd
  · exact hb

theorem acyclic_merge (hg : g.Acyclic) : (g.merge name other).Acyclic :=
  (mergesLinks_mergeFrom g [] name other).acyclic hg

/-! ### Removing -/

theorem derives_remove? (h : g.remove? name = some (c, k)) :
    k.Derives a b ↔ a ≠ name ∧ b ≠ name ∧ g.Derives a b := by
  obtain ⟨d, -, he⟩ := Option.map_eq_some_iff.1 h
  obtain ⟨-, rfl⟩ := Prod.mk.inj he
  unfold Derives baseName?
  rw [find?_mapNodes, find?_erase]
  by_cases ha : a = name
  · simp [ha]
  · cases g.find? a with
    | none => simp [ha]
    | some d =>
        by_cases hd : d.base = some name
        · have hne : b ≠ name → name ≠ b := Ne.symm
          simpa [ha, hd] using hne
        · have hne : d.base = some b → b ≠ name := by
            rintro hb rfl
            exact hd hb
          simpa [ha, hd] using hne

theorem mem_names_remove? (h : g.remove? name = some (c, k)) :
    a ∈ k.names ↔ a ≠ name ∧ a ∈ g.names := by
  obtain ⟨d, -, he⟩ := Option.map_eq_some_iff.1 h
  obtain ⟨-, rfl⟩ := Prod.mk.inj he
  rw [names_mapNodes, mem_names_erase]

theorem acyclic_remove? (hg : g.Acyclic) (h : g.remove? name = some (c, k)) : k.Acyclic :=
  hg.mono fun _ _ hd => ((derives_remove? h).1 hd).2.2

theorem wellLinked_remove? (hg : g.WellLinked) (h : g.remove? name = some (c, k)) :
    k.WellLinked := by
  refine ⟨hg.named.remove? (fun _ _ _ hc => hc) h, ?_⟩
  intro a b hd
  obtain ⟨-, hb, hd⟩ := (derives_remove? h).1 hd
  exact (mem_names_remove? h).2 ⟨hb, hg.resolved hd⟩

/-! ### Renaming in place -/

theorem derives_rekey (hnew : new ∉ g.names) :
    (g.rekey old new).Derives a b ↔
      (a = new ∧ g.Derives old b) ∨ (a ≠ new ∧ a ≠ old ∧ g.Derives a b) := by
  unfold Derives baseName?
  rw [find?_rekey hnew]
  by_cases ha : a = new
  · cases g.find? old <;> simp [ha]
  · by_cases ho : a = old
    · have hne : old ≠ new := ho ▸ ha
      simp [ho, hne]
    · simp [ha, ho]

theorem mem_names_rekey (hold : old ∈ g.names) (hnew : new ∉ g.names) :
    a ∈ (g.rekey old new).names ↔ a = new ∨ (a ≠ old ∧ a ∈ g.names) := by
  rw [← find?_isSome_iff, ← find?_isSome_iff, find?_rekey hnew]
  by_cases ha : a = new
  · simpa [ha] using find?_isSome_iff.2 hold
  · by_cases ho : a = old
    · have hne : old ≠ new := ho ▸ ha
      simp [ho, hne]
    · simp [ha, ho]

theorem named_rekey (hg : g.Named) (hnew : new ∉ g.names) : (g.rekey old new).Named :=
  hg.rekey hnew fun _ _ => rfl

/-- The links of a rekeyed graph are the old ones, the new name read as the old one. -/
theorem derives_of_derives_rekey (hg : g.Resolved) (hnew : new ∉ g.names)
    (h : (g.rekey old new).Derives a b) :
    g.Derives (if a = new then old else a) (if b = new then old else b) := by
  have hb : ∀ {a}, g.Derives a b → b ≠ new := fun hd he => hnew (he ▸ hg hd)
  rcases (derives_rekey hnew).1 h with ⟨rfl, hd⟩ | ⟨ha, -, hd⟩
  · rwa [if_pos rfl, if_neg (hb hd)]
  · rwa [if_neg ha, if_neg (hb hd)]

theorem acyclic_rename? (hg : g.Acyclic) (hw : g.WellLinked) (h : g.rename? old new = some k) :
    k.Acyclic := by
  obtain ⟨⟨hne, hnew, -⟩, rfl⟩ := rename?_eq_some_iff.1 h
  have hlift : ∀ {a b}, TransGen (g.rekey old new).Derives a b →
      TransGen g.Derives (if a = new then old else a) (if b = new then old else b) := fun hp =>
    hp.lift _ fun _ _ hd => derives_of_derives_rekey hw.resolved hnew hd
  have hrekey : (g.rekey old new).Acyclic := fun _ hc => hg _ (hlift hc)
  rw [acyclic_redirectBases_iff hrekey (named_rekey hw.named hnew)]
  intro hp
  have hc := hlift hp
  rw [if_pos rfl, if_neg hne] at hc
  exact absurd hc (hg old)

theorem wellLinked_rename? (hw : g.WellLinked) (h : g.rename? old new = some k) :
    k.WellLinked := by
  obtain ⟨⟨-, hnew, hold⟩, rfl⟩ := rename?_eq_some_iff.1 h
  have hn : (g.rekey old new).Named := named_rekey hw.named hnew
  refine ⟨named_redirectBases hn, ?_⟩
  intro a b hd
  rw [names_redirectBases, mem_names_rekey hold hnew]
  rcases (derives_redirectBases hn).1 hd with ⟨-, -, hb⟩ | ⟨hd, hb⟩
  · exact .inl hb
  · refine .inr ⟨hb, ?_⟩
    rcases (derives_rekey hnew).1 hd with ⟨-, hd⟩ | ⟨-, -, hd⟩ <;> exact hw.resolved hd

end ClassGraph

end ClassInference
