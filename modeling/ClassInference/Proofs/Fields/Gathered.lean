import ClassInference.Proofs.Documents.Absorbed
import ClassInference.Proofs.Fields.Owners

/-!
# Fields gathered by a merge

A merge goes up two chains of bases at once and folds each class of the second chain into the class
at the same height of the first. Where the first chain ends earlier, the rest of the second one is
adopted as a base, unless that would close a cycle. So the target of a merge ends up with its own
effective fields and with those of the classes that were folded or adopted.
-/

namespace ClassInference

open OrderedTable

/-! ### Records -/

/-- A content that is a record with each field under its wire name. -/
def Content.KeyedRecord (c : Content) : Prop := c.isEnumeration = false ∧ c.fields.Keyed

/-- The keys of merged contents: the own ones, then those that come new unless the first content is
an enumeration. -/
theorem Content.keys_merge {other : Content} (ho : other.fields.Keyed) (c : Content) :
    (c.merge other).fields.keys = c.fields.keys ++
      if c.isEnumeration then [] else other.fields.keys.filter (· ∉ c.fields.keys) := by
  cases c with
  | enumeration constants => cases other <;> rfl
  | record fields =>
      cases other with
      | enumeration constants => exact (List.append_nil _).symm
      | record others => exact keys_mergeFields ho fields

theorem Content.mem_keys_merge {c other : Content} (hc : c.KeyedRecord) (ho : other.KeyedRecord)
    {w : String} :
    w ∈ (c.merge other).fields.keys ↔ w ∈ c.fields.keys ∨ w ∈ other.fields.keys := by
  rw [keys_merge ho.2, hc.1, List.mem_append]
  by_cases hw : w ∈ c.fields.keys <;> simp [hw]

/-- No merge drops a field of the first content. -/
theorem Content.mem_keys_merge_left {c other : Content} {w : String} (h : w ∈ c.fields.keys) :
    w ∈ (c.merge other).fields.keys := by
  cases c with
  | enumeration constants => cases other <;> exact h
  | record fields =>
      cases other with
      | enumeration constants => exact h
      | record others =>
          refine List.foldlRecOn (motive := fun t : OrderedTable Field => w ∈ t.keys) _ _ h ?_
          intro t ht f _
          rw [addField, keys_combine]
          split
          · exact ht
          · exact List.mem_append_left _ ht

theorem mergeInvariant_keyedRecord : MergeInvariant Content.KeyedRecord Content.KeyedRecord where
  admits _ hc := hc
  merge c other hc _ :=
    ⟨(c.isEnumeration_merge other).trans hc.1, contentInvariant_keyed.merge c other hc.2⟩

namespace ClassGraph

open Relation

variable {g k : ClassGraph} {a b own theirs target w : String} {met : List String}
  {other next : ClassNode}

/-- Every node is a class with each field under its wire name. -/
def KeyedRecords (g : ClassGraph) : Prop := g.EveryContent (·.KeyedRecord)

/-- The wire names that the target of one content merge owns. -/
theorem mem_ownNames_mergeContent (hg : g.KeyedRecords) (ho : other.content.KeyedRecord)
    (ht : target ∈ g.names) :
    w ∈ (g.modify target (·.mergeContent other)).ownNames a ↔
      w ∈ g.ownNames a ∨ (a = target ∧ w ∈ other.content.fields.keys) := by
  by_cases ha : a = target
  · subst ha
    obtain ⟨node, hnode⟩ := exists_find?_of_mem_names ht
    have hmerged := content?_mergeContent hnode other
    rw [ownNames, hmerged, ownNames_of_find? hnode]
    simp [Content.mem_keys_merge (hg hnode) ho]
  · have hsame : (g.modify target (·.mergeContent other)).content? a = g.content? a := by
      rw [content?, find?_modify_of_ne ha, content?]
    rw [ownNames_eq_of_content? hsame]
    simp [ha]

theorem mem_ownNames_mergeContent_self (hg : g.KeyedRecords) (ho : other.content.KeyedRecord)
    (ht : target ∈ g.names) :
    w ∈ (g.modify target (·.mergeContent other)).ownNames target ↔
      w ∈ g.ownNames target ∨ w ∈ other.content.fields.keys := by
  simp [mem_ownNames_mergeContent hg ho ht]

/-- Beside the content that is merged, the classes of a list own what they owned before. -/
theorem exists_mem_ownNames_mergeContent (hg : g.KeyedRecords) (ho : other.content.KeyedRecord)
    (ht : target ∈ g.names) (names : List String) :
    (w ∈ other.content.fields.keys ∨
        ∃ b ∈ names, w ∈ (g.modify target (·.mergeContent other)).ownNames b) ↔
      w ∈ other.content.fields.keys ∨ ∃ b ∈ names, w ∈ g.ownNames b := by
  simp only [mem_ownNames_mergeContent hg ho ht]
  constructor
  · rintro (hw | ⟨b, hb, hown | ⟨-, hw⟩⟩)
    · exact .inl hw
    · exact .inr ⟨b, hb, hown⟩
    · exact .inl hw
  · rintro (hw | ⟨b, hb, hown⟩)
    · exact .inl hw
    · exact .inr ⟨b, hb, .inl hown⟩

/-- What a class provides after one content merge. -/
theorem provides_mergeContent_iff (hg : g.KeyedRecords) (ho : other.content.KeyedRecord)
    (ht : target ∈ g.names) :
    (g.modify target (·.mergeContent other)).Provides a w ↔
      g.Provides a w ∨
        (ReflTransGen g.Derives a target ∧ w ∈ other.content.fields.keys) := by
  have hderives : (g.modify target (·.mergeContent other)).Derives = g.Derives := by
    funext b c
    exact propext (keepsLinks_mergeContent g target other).derives_iff
  unfold Provides
  rw [hderives]
  simp only [mem_ownNames_mergeContent hg ho ht]
  constructor
  · rintro ⟨b, hp, hown | ⟨rfl, hw⟩⟩
    · exact .inl ⟨b, hp, hown⟩
    · exact .inr ⟨hp, hw⟩
  · rintro (⟨b, hp, hown⟩ | ⟨hp, hw⟩)
    · exact ⟨b, hp, .inl hown⟩
    · exact ⟨target, hp, .inr ⟨rfl, hw⟩⟩

/-! ### The classes that are taken -/

/-- The chain above the target ends at a class of the graph, and meets none of the names. -/
def RunsFree (g : ClassGraph) (target : String) (names : List String) : Prop :=
  (∀ a ∈ g.ancestors target, a ∈ g.names) ∧ ∀ a ∈ names, a ∉ target :: g.ancestors target

instance (g : ClassGraph) (target : String) (names : List String) :
    Decidable (g.RunsFree target names) :=
  inferInstanceAs (Decidable (_ ∧ _))

/-- How many classes of the graph lie above the target. -/
def height (g : ClassGraph) (target : String) : Nat :=
  (g.ancestors target).countP (· ∈ g.names)

/-- What a merge takes of another chain: as many classes as there are above the target, and the
others too where they can be adopted. -/
def taken (g : ClassGraph) (target : String) (names : List String) : List String :=
  if g.RunsFree target names then names else names.take (g.height target)

theorem mem_of_mem_taken {names : List String} (h : a ∈ g.taken target names) : a ∈ names := by
  unfold taken at h
  split at h
  · exact h
  · exact List.mem_of_mem_take h

theorem KeepsLinks.ancestors (h : g.KeepsLinks k) (a : String) :
    k.ancestors a = g.ancestors a := by
  rw [ClassGraph.ancestors, chain_eq_of_baseName? h.baseName?, h.baseName?, ClassGraph.ancestors]

/-- What is taken depends on the links and on the names. -/
theorem KeepsLinks.taken (h : g.KeepsLinks k) (hnames : k.names = g.names) (target : String)
    (names : List String) : k.taken target names = g.taken target names := by
  have hancestors := h.ancestors target
  have hfree : k.RunsFree target names ↔ g.RunsFree target names := by
    rw [RunsFree, hancestors, hnames, RunsFree]
  have hheight : k.height target = g.height target := by
    rw [height, hancestors, hnames, height]
  simp only [ClassGraph.taken, hfree, hheight]

theorem taken_of_baseName? (h : g.baseName? target = none) (names : List String) :
    g.taken target names = if target ∈ names then [] else names := by
  have hfree : g.RunsFree target names ↔ target ∉ names := by
    unfold RunsFree
    rw [ancestors_of_baseName? h]
    constructor
    · rintro ⟨-, hnames⟩ hmem
      exact hnames target hmem List.mem_cons_self
    · intro hnot
      refine ⟨by simp, fun a ha he => ?_⟩
      rw [List.mem_singleton] at he
      exact hnot (he ▸ ha)
  unfold taken height
  rw [ancestors_of_baseName? h]
  by_cases hmem : target ∈ names
  · rw [if_neg (mt hfree.1 (not_not.2 hmem)), if_pos hmem]
    rfl
  · rw [if_pos (hfree.2 hmem), if_neg hmem]

theorem Acyclic.chain_nil_baseName? (hg : g.Acyclic) (a : String) :
    g.chain [] (g.baseName? a) = g.ancestors a := by
  cases hb : g.baseName? a with
  | none => rw [chain_none, ancestors_of_baseName? hb]
  | some b => rw [chain_nil_some, hg.ancestors_of_derives hb]

/-- Chains that do not meet above two classes meet at neither of the two, if something lies above
the second. -/
theorem Acyclic.runsFree_of_derives (hg : g.Acyclic) (hown : g.Derives target own)
    (hne : own ≠ theirs) (hpresent : own ∈ g.names) (hfree : g.RunsFree own (g.ancestors theirs))
    (hsome : g.ancestors theirs ≠ []) : g.RunsFree target (theirs :: g.ancestors theirs) := by
  obtain ⟨hends, hmeets⟩ := hfree
  obtain ⟨x, hx⟩ := List.exists_mem_of_ne_nil _ hsome
  have hnot : own ∉ g.ancestors theirs := fun h => hmeets own h List.mem_cons_self
  rw [RunsFree, hg.ancestors_of_derives hown]
  constructor
  · exact List.forall_mem_cons.2 ⟨hpresent, hends⟩
  · intro a ha hmet
    rcases List.mem_cons.1 ha with rfl | ha <;> rcases List.mem_cons.1 hmet with rfl | hmet
    · -- the second chain would go on with the first one
      exact hnot (hg.ancestors_of_derives hown ▸ List.mem_cons_self)
    · rcases List.mem_cons.1 hmet with rfl | hmet
      · exact hne rfl
      · have hp : TransGen g.Derives own x :=
          (mem_ancestors_iff.1 hmet).2.trans (mem_ancestors_iff.1 hx).2
        have hxown : x ≠ own := by
          rintro rfl
          exact hg x hp
        exact hmeets x hx (List.mem_cons_of_mem _ (mem_ancestors_iff.2 ⟨hxown, hp⟩))
    · exact hnot (mem_ancestors_iff.2 ⟨hne, (mem_ancestors_iff.1 ha).2.tail hown⟩)
    · exact hmeets a ha hmet

/-- One step up both chains: the base of the other class is taken, and the rest goes on from the
base of the target. -/
theorem Acyclic.taken_of_derives (hg : g.Acyclic) (hown : g.Derives target own)
    (hne : own ≠ theirs) (hpresent : own ∈ g.names) :
    g.taken target (theirs :: g.ancestors theirs) = theirs :: g.taken own (g.ancestors theirs) := by
  have habove : g.ancestors target = own :: g.ancestors own := hg.ancestors_of_derives hown
  have hheight : g.height target = g.height own + 1 := by
    rw [height, habove, List.countP_cons_of_pos (by simpa using hpresent), height]
  have hdown : g.RunsFree target (theirs :: g.ancestors theirs) →
      g.RunsFree own (g.ancestors theirs) := by
    rintro ⟨hends, hmeets⟩
    rw [habove] at hends hmeets
    exact ⟨fun a ha => hends a (List.mem_cons_of_mem _ ha), fun a ha hmet =>
      hmeets a (List.mem_cons_of_mem _ ha) (List.mem_cons_of_mem _ hmet)⟩
  unfold taken
  by_cases hfree : g.RunsFree own (g.ancestors theirs)
  · rw [if_pos hfree]
    by_cases hfree' : g.RunsFree target (theirs :: g.ancestors theirs)
    · rw [if_pos hfree']
    · -- the chains can meet at `theirs` alone, and then nothing lies above it
      have hnil : g.ancestors theirs = [] := by
        by_contra hsome
        exact hfree' (hg.runsFree_of_derives hown hne hpresent hfree hsome)
      rw [if_neg hfree', hnil, hheight, List.take_succ_cons, List.take_nil]
  · rw [if_neg hfree, if_neg (mt hdown hfree), hheight, List.take_succ_cons]

/-! ### What a merge gathers -/

theorem ownNames_setBase (g : ClassGraph) (sub base : String) :
    (g.setBase sub base).ownNames = g.ownNames := by
  funext a
  exact ownNames_eq_of_content? (congrFun (content?_setBase g sub base) a)

/-- No class loses a field of its own in a merge. -/
theorem mem_ownNames_mergeFrom (h : w ∈ g.ownNames a) (met : List String) (target : String)
    (other : ClassNode) : w ∈ (g.mergeFrom met target other).ownNames a := by
  apply mergeFrom_induction (motive := fun k => w ∈ k.ownNames a) _ _ g met target other h
  · intro k target other hk
    by_cases ha : a = target
    · subst ha
      obtain ⟨node, hnode⟩ := exists_find?_of_mem_names (mem_names_of_mem_ownNames hk)
      rw [ownNames_of_find? hnode] at hk
      rw [ownNames, content?_mergeContent hnode other]
      exact Content.mem_keys_merge_left hk
    · have hsame : (k.modify target (·.mergeContent other)).content? a = k.content? a := by
        rw [content?, find?_modify_of_ne ha, content?]
      rwa [ownNames_eq_of_content? hsame]
  · intro k sub base hk
    rwa [ownNames_setBase]

/-- A class without a base adopts another one, unless that is itself or lies below it. -/
theorem provides_setBase_iff (ht : target ∈ g.names) (hb : theirs ∈ g.names)
    (hroot : g.baseName? target = none) :
    (g.setBase target theirs).Provides target w ↔ w ∈ g.ownNames target ∨
      ∃ b ∈ g.taken target (theirs :: g.ancestors theirs), w ∈ g.ownNames b := by
  rw [taken_of_baseName? hroot]
  by_cases hmeet : target ∈ theirs :: g.ancestors theirs
  · have hrefused : g.setBase? target theirs = none := by
      rw [Option.eq_none_iff_forall_ne_some]
      intro k hk
      obtain ⟨⟨-, -, hne, habove⟩, -⟩ := setBase?_eq_some_iff.1 hk
      exact (List.mem_cons.1 hmeet).elim hne habove
    rw [setBase, hrefused, Option.getD_none, if_pos hmeet, provides_iff_of_baseName? hroot]
    simp
  · rw [List.mem_cons, not_or] at hmeet
    have hset := setBase?_eq_some_iff.2 ⟨⟨ht, hb, hmeet.1, hmeet.2⟩, rfl⟩
    have hadds : AddsLink g (g.setBase target theirs) target theirs := by
      rw [setBase, hset]
      exact addsLink_of_setBase? hset
    rw [hadds.provides_iff (ownNames_setBase g target theirs), if_neg (by simpa using hmeet)]
    apply or_congr_right
    exact exists_congr fun b => and_congr_left fun _ => mem_lineage_iff.symm

/-- Where the chain above the target leads nowhere at once, nothing is taken. -/
theorem Acyclic.taken_of_not_mem_names (hg : g.Acyclic) (hown : g.Derives target own)
    (hn : own ∉ g.names) (names : List String) : g.taken target names = [] := by
  have hnone : g.baseName? own = none := by
    rw [baseName?, find?_eq_none_iff.2 hn, Option.bind_none]
  have habove : g.ancestors target = [own] := by
    rw [hg.ancestors_of_derives hown, ancestors_of_baseName? hnone]
  have hfree : ¬ g.RunsFree target names := fun h => hn (h.1 own (by simp [habove]))
  have hheight : g.height target = 0 := by simp [height, habove, hn]
  rw [taken, if_neg hfree, hheight, List.take_zero]

/-- Nothing above a class leads back to it. -/
theorem Acyclic.not_reflTransGen_of_derives (hg : g.Acyclic) (hown : g.Derives target own) :
    ¬ ReflTransGen g.Derives own target := fun hp => hg target (.head' hown hp)

/-- A content merge leaves what lies above its target as it is. -/
theorem Acyclic.provides_mergeContent_above (hg : g.Acyclic) (hrecords : g.KeyedRecords)
    (ho : other.content.KeyedRecord) (hown : g.Derives target own) :
    (g.modify target (·.mergeContent other)).Provides own w ↔ g.Provides own w := by
  rw [provides_mergeContent_iff hrecords ho hown.mem_names]
  exact or_iff_left fun h => hg.not_reflTransGen_of_derives hown h.1

/-- A merge further up the chain reaches none of the classes that the walk has met. -/
theorem Acyclic.not_met_of_derives (hg : g.Acyclic) (hown : g.Derives target own)
    (hmet : ∀ b, ReflTransGen g.Derives target b → b ∉ met) :
    ∀ b, ReflTransGen g.Derives own b → b ∉ target :: met := by
  intro b hp
  rw [List.mem_cons, not_or]
  refine ⟨?_, hmet b (.head hown hp)⟩
  rintro rfl
  exact hg.not_reflTransGen_of_derives hown hp

/-- After a merge into its base, a class provides its own fields and those of its base. -/
theorem provides_mergeFrom_of_derives (hown : g.Derives target own) :
    (g.mergeFrom (target :: met) own other).Provides target w ↔
      w ∈ g.ownNames target ∨ (g.mergeFrom (target :: met) own other).Provides own w := by
  have hup : (g.mergeFrom (target :: met) own other).Derives target own :=
    (mergesLinks_mergeFrom _ _ _ _).derives hown
  have hsame : (g.mergeFrom (target :: met) own other).ownNames target = g.ownNames target := by
    apply ownNames_eq_of_content?
    rw [content?, find?_mergeFrom_of_mem List.mem_cons_self, content?]
  rw [provides_iff_of_derives hup, hsame]

/-- One step up both chains: what the target provides, from what the merge of the bases does. -/
theorem Acyclic.provides_mergeFrom_up (hg : g.Acyclic) (hrecords : g.KeyedRecords)
    (ho : other.content.KeyedRecord) (hown : g.Derives target own) (hne : own ≠ theirs)
    (hpresent : own ∈ g.names)
    (hnext : (g.modify target (·.mergeContent other)).find? theirs = some next)
    (hbases : ((g.modify target (·.mergeContent other)).mergeFrom (target :: met) own
        next).Provides own w ↔
      (g.modify target (·.mergeContent other)).Provides own w ∨ w ∈ next.content.fields.keys ∨
        ∃ b ∈ g.taken own (g.ancestors theirs),
          w ∈ (g.modify target (·.mergeContent other)).ownNames b) :
    ((g.modify target (·.mergeContent other)).mergeFrom (target :: met) own
        next).Provides target w ↔
      g.Provides target w ∨ w ∈ other.content.fields.keys ∨
        ∃ b ∈ g.taken target (theirs :: g.ancestors theirs), w ∈ g.ownNames b := by
  have ht := hown.mem_names
  have hown' := (keepsLinks_mergeContent g target other).derives_iff.2 hown
  rw [provides_mergeFrom_of_derives hown', mem_ownNames_mergeContent_self hrecords ho ht, hbases,
    hg.provides_mergeContent_above hrecords ho hown, ← ownNames_of_find? hnext,
    provides_iff_of_derives hown, hg.taken_of_derives hown hne hpresent]
  generalize g.taken own (g.ancestors theirs) = rest
  have htaken : w ∈ (g.modify target (·.mergeContent other)).ownNames theirs ∨
      (∃ b ∈ rest, w ∈ (g.modify target (·.mergeContent other)).ownNames b) ↔
      ∃ b ∈ theirs :: rest, w ∈ (g.modify target (·.mergeContent other)).ownNames b := by
    simp
  rw [htaken, or_or_or_comm, exists_mem_ownNames_mergeContent hrecords ho ht]

/-- Where the chain of the target ends with a link that leads nowhere, only the content is
merged. -/
theorem Acyclic.provides_mergeFrom_dangling (hg : g.Acyclic) (hrecords : g.KeyedRecords)
    (ho : other.content.KeyedRecord) (hown : g.Derives target own) (hgone : own ∉ g.names)
    (hmet : own ∉ target :: met) (names : List String) :
    ((g.modify target (·.mergeContent other)).mergeFrom (target :: met) own
        next).Provides target w ↔
      g.Provides target w ∨ w ∈ other.content.fields.keys ∨
        ∃ b ∈ g.taken target names, w ∈ g.ownNames b := by
  have hown' := (keepsLinks_mergeContent g target other).derives_iff.2 hown
  have hnone : (g.modify target (·.mergeContent other)).find? own = none := by
    rw [find?_eq_none_iff, names_modify]
    exact hgone
  rw [provides_mergeFrom_of_derives hown',
    mem_ownNames_mergeContent_self hrecords ho hown.mem_names, mergeFrom_of_find?_none hmet hnone,
    hg.provides_mergeContent_above hrecords ho hown, provides_iff_of_derives hown,
    hg.taken_of_not_mem_names hown hgone]
  simp only [List.not_mem_nil, false_and, exists_false, or_false]
  exact or_right_comm

/-- A merge gives its target the fields of the other node and of the classes that are taken. -/
theorem provides_mergeFrom_iff (hg : g.Acyclic) (hrecords : g.KeyedRecords)
    (ho : other.content.KeyedRecord) (ht : target ∈ g.names)
    (hmet : ∀ b, ReflTransGen g.Derives target b → b ∉ met)
    (hpresent : ∀ b ∈ g.chain [] other.base, b ∈ g.names) :
    (g.mergeFrom met target other).Provides target w ↔
      g.Provides target w ∨ w ∈ other.content.fields.keys ∨
        ∃ b ∈ g.taken target (g.chain [] other.base), w ∈ g.ownNames b := by
  fun_induction mergeFrom g met target other with
  | case1 g met target other hm => exact absurd hm (hmet target .refl)
  | case2 g met target other hm hf => exact absurd ht (find?_eq_none_iff.1 hf)
  | case3 g met target other hm node hf merged theirs htheirs hown =>
      -- all that is taken lies above the target already
      have hlink : g.Derives target theirs := (derives_iff_of_find? hf).2 hown
      rw [provides_mergeContent_iff hrecords ho ht]
      constructor
      · rintro (h | ⟨-, hw⟩)
        · exact .inl h
        · exact .inr (.inl hw)
      · rintro (h | hw | ⟨b, hb, hw⟩)
        · exact .inl h
        · exact .inr ⟨.refl, hw⟩
        · have hlineage := mem_of_mem_taken hb
          rw [htheirs, chain_nil_some, mem_lineage_iff] at hlineage
          exact .inl ⟨b, .head hlink hlineage, hw⟩
  | case4 g met target other hm node hf merged own theirs htheirs hown hne hnone =>
      have htheirs' : theirs ∈ g.names := by
        apply hpresent
        rw [htheirs, chain_nil_some]
        exact List.mem_cons_self
      rw [← names_modify g target (·.mergeContent other)] at htheirs'
      exact absurd htheirs' (find?_eq_none_iff.1 hnone)
  | case5 g met target other hm node hf merged own theirs htheirs hown hne next hnext _ ih =>
      have hlink : g.Derives target own := (derives_iff_of_find? hf).2 hown
      have hk : g.KeepsLinks merged := keepsLinks_mergeContent g target other
      have hacyclic : merged.Acyclic := hk.acyclic hg
      have hnames : merged.names = g.names := names_modify _ _ _
      have hmet' : ∀ b, ReflTransGen merged.Derives own b → b ∉ target :: met := by
        refine hacyclic.not_met_of_derives (hk.derives_iff.2 hlink) fun b hp => hmet b ?_
        exact ReflTransGen.mono (fun _ _ => hk.derives_iff.1) _ _ hp
      rw [htheirs, chain_nil_some] at hpresent ⊢
      by_cases hpresentOwn : own ∈ g.names
      · have hrest : merged.chain [] next.base = g.ancestors theirs := by
          have hbase : merged.baseName? theirs = next.base := by simp [baseName?, hnext]
          rw [← hbase, hacyclic.chain_nil_baseName?, hk.ancestors]
        have hrecords' : merged.KeyedRecords :=
          hrecords.modify (fun _ c hc => mergeInvariant_keyedRecord.merge _ _ hc ho) target
        rw [hrest, hk.taken hnames, hnames] at ih
        refine hg.provides_mergeFrom_up hrecords ho hlink hne hpresentOwn hnext ?_
        exact ih hacyclic hrecords' (hrecords' hnext) hpresentOwn hmet' fun b hb =>
          hpresent b (List.mem_cons_of_mem _ hb)
      · exact hg.provides_mergeFrom_dangling hrecords ho hlink hpresentOwn (hmet' own .refl) _
  | case6 g met target other hm node hf merged theirs htheirs hroot =>
      have hk : g.KeepsLinks merged := keepsLinks_mergeContent g target other
      have hnames : merged.names = g.names := names_modify _ _ _
      have hbase : g.baseName? target = none := by rw [baseName?, hf, Option.bind_some, hroot]
      rw [htheirs, chain_nil_some] at hpresent ⊢
      rw [provides_setBase_iff (hnames ▸ ht) (hnames ▸ hpresent theirs List.mem_cons_self)
        ((hk.baseName? target).trans hbase), hk.ancestors, hk.taken hnames,
        mem_ownNames_mergeContent_self hrecords ho ht, or_assoc,
        exists_mem_ownNames_mergeContent hrecords ho ht, provides_iff_of_baseName? hbase]
  | case7 g met target other hm node hf merged htheirs =>
      rw [htheirs, chain_none, provides_mergeContent_iff hrecords ho ht]
      have hnone : g.taken target [] = [] := by
        unfold taken
        split <;> simp
      simp [hnone, ReflTransGen.refl]

end ClassGraph

end ClassInference
