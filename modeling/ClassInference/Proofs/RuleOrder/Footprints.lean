import ClassInference.Proofs.RuleOrder.Moves
import ClassInference.Proofs.TypeRenames.Effect

/-!
# What a move touches

A class that is folded may leave a base behind, which is then merged into what stands above the
other class. So a move touches the two classes and, where a base is left, all classes above them; it
leads on the links of the others and leaves them alone otherwise. Two moves that touch different
classes can be exchanged.
-/

namespace ClassInference

namespace ClassGraph

open Relation

variable {R : ClassNode → ClassNode → Prop} {S T : List String} {g g' : ClassGraph}
  {c c' other other' origin : ClassNode} {a b x y n old new sub base target : String}

/-! ### Closed sets of names -/

/-- No base link leads out of the names. -/
def ClosedUp (g : ClassGraph) (S : List String) : Prop := ∀ a ∈ S, ∀ b, g.Derives a b → b ∈ S

/-- What stands above a name of a closed set depends on the links inside the set. -/
theorem ClosedUp.transGen (h : g.ClosedUp S) (hlinks : ∀ n ∈ S, g'.baseName? n = g.baseName? n)
    (ha : a ∈ S) (hp : TransGen g.Derives a b) : TransGen g'.Derives a b ∧ b ∈ S := by
  have hstep : ∀ {a b}, a ∈ S → g.Derives a b → g'.Derives a b := fun ha hd =>
    (hlinks _ ha).trans hd
  induction hp with
  | single hd => exact ⟨.single (hstep ha hd), h _ ha _ hd⟩
  | tail _ hd ih => exact ⟨.tail ih.1 (hstep ih.2 hd), h _ ih.2 _ hd⟩

/-! ### Graphs that are related on a set of names -/

/-- The relation of two nodes does not depend on their links, and merging keeps it. -/
structure MergeRelation (R : ClassNode → ClassNode → Prop) : Prop where
  name : ∀ {c c'}, R c c' → c'.name = c.name
  base : ∀ {c c'}, R c c' → c'.base = c.base
  mergeContent : ∀ {c c' d d'}, R c c' → R d d' → R (c.mergeContent d) (c'.mergeContent d')
  withBase : ∀ {c c'} (base : Option String), R c c' →
    R { c with base := base } { c' with base := base }

theorem mergeRelation_eq : MergeRelation Eq where
  name h := congrArg _ h.symm
  base h := congrArg _ h.symm
  mergeContent h h' := congrArg₂ _ h h'
  withBase base h := congrArg (fun c => { c with base := base }) h

theorem MergeRelation.redirect (hR : MergeRelation R) (h : R c c') (old new : String) :
    R (c.redirect old new) (c'.redirect old new) := by
  have hbase : (if c'.name = new then none else some new)
      = if c.name = new then none else some new := by rw [hR.name h]
  unfold ClassNode.redirect
  rw [hR.base h, hbase]
  split
  · exact hR.withBase _ h
  · exact h

/-- The nodes of the names in `S` are related, and no base link leads out of `S`. -/
structure RelatedOn (R : ClassNode → ClassNode → Prop) (S : List String) (g g' : ClassGraph) :
    Prop where
  node : ∀ n ∈ S, Option.Rel R (g.find? n) (g'.find? n)
  closed : g.ClosedUp S

namespace RelatedOn

theorem exists_find? (h : RelatedOn R S g g') (hn : n ∈ S) (hc : g.find? n = some c) :
    ∃ c', g'.find? n = some c' ∧ R c c' := by
  rcases (h.node n hn).eq_or_exists with ⟨hnone, -⟩ | ⟨d, d', hd, hd', hdd⟩
  · rw [hnone] at hc
    contradiction
  · rw [hd, Option.some.injEq] at hc
    exact ⟨d', hd', hc ▸ hdd⟩

theorem find?_eq_none (h : RelatedOn R S g g') (hn : n ∈ S) (hc : g.find? n = none) :
    g'.find? n = none := by
  rcases (h.node n hn).eq_or_exists with ⟨-, hnone⟩ | ⟨d, -, hd, -⟩
  · exact hnone
  · rw [hd] at hc
    contradiction

theorem mem_names_iff (h : RelatedOn R S g g') (hn : n ∈ S) : n ∈ g'.names ↔ n ∈ g.names := by
  rw [← find?_isSome_iff, ← find?_isSome_iff, (h.node n hn).isSome_eq]

theorem contains (h : RelatedOn R S g g') (hn : n ∈ S) : g'.contains n = g.contains n := by
  rw [Bool.eq_iff_iff, contains_iff, contains_iff]
  exact h.mem_names_iff hn

theorem baseName? (h : RelatedOn R S g g') (hR : MergeRelation R) (hn : n ∈ S) :
    g'.baseName? n = g.baseName? n := by
  rw [ClassGraph.baseName?, ClassGraph.baseName?]
  rcases (h.node n hn).eq_or_exists with ⟨hc, hc'⟩ | ⟨c, c', hc, hc', hcc⟩
  · rw [hc, hc']
  · rw [hc, hc', Option.bind_some, Option.bind_some, hR.base hcc]

theorem closed' (h : RelatedOn R S g g') (hR : MergeRelation R) : g'.ClosedUp S := by
  intro a ha b hd
  exact h.closed a ha b ((h.baseName? hR ha).symm.trans hd)

theorem mem_ancestors_iff (h : RelatedOn R S g g') (hR : MergeRelation R) (hn : n ∈ S) :
    a ∈ g'.ancestors n ↔ a ∈ g.ancestors n := by
  rw [ClassGraph.mem_ancestors_iff, ClassGraph.mem_ancestors_iff]
  apply and_congr_right
  intro _
  constructor
  · exact fun hp => ((h.closed' hR).transGen (fun _ hm => (h.baseName? hR hm).symm) hn hp).1
  · exact fun hp => (h.closed.transGen (fun _ hm => h.baseName? hR hm) hn hp).1

theorem modify {f f' : ClassNode → ClassNode} (h : RelatedOn R S g g')
    (hf : ∀ c c', R c c' → R (f c) (f' c'))
    (hbase : ∀ c b, (f c).base = some b → c.base = some b ∨ b ∈ S) (name : String) :
    RelatedOn R S (g.modify name f) (g'.modify name f') where
  node n hn := by
    rw [find?_modify, find?_modify]
    split
    · exact (h.node n hn).map hf
    · exact h.node n hn
  closed a ha b hd := by
    rw [Derives, baseName?_modify] at hd
    split at hd
    · obtain ⟨c, hc, hb⟩ := Option.bind_eq_some_iff.1 hd
      rcases hbase c b hb with hb | hb
      · exact h.closed a ha b ((derives_iff_of_find? hc).2 hb)
      · exact hb
    · exact h.closed a ha b hd

theorem erase (h : RelatedOn R S g g') (name : String) :
    RelatedOn R S (g.erase name) (g'.erase name) where
  node n hn := by
    rw [find?_erase, find?_erase]
    split
    · exact .none
    · exact h.node n hn
  closed a ha b hd := h.closed a ha b (derives_erase.1 hd).2

theorem setBase (h : RelatedOn R S g g') (hR : MergeRelation R) (hsub : sub ∈ S)
    (hbase : base ∈ S) : RelatedOn R S (g.setBase sub base) (g'.setBase sub base) := by
  have hancestors : (g'.ancestors base).contains sub = (g.ancestors base).contains sub := by
    rw [Bool.eq_iff_iff, List.contains_iff_mem, List.contains_iff_mem]
    exact h.mem_ancestors_iff hR hbase
  unfold ClassGraph.setBase setBase?
  rw [h.contains hsub, h.contains hbase, hancestors]
  split
  · refine h.modify (fun _ _ hc => hR.withBase _ hc) (fun _ b hb => .inr ?_) sub
    rwa [← Option.some.inj hb]
  · exact h

theorem mergeContent (h : RelatedOn R S g g') (hR : MergeRelation R) (ho : R other other')
    (target : String) : RelatedOn R S (g.modify target (·.mergeContent other))
      (g'.modify target (·.mergeContent other')) :=
  h.modify (fun _ _ hc => hR.mergeContent hc ho) (fun _ _ hb => .inl hb) target

/-- A merge inside the set of names makes related graphs of related graphs. -/
theorem mergeFrom (h : RelatedOn R S g g') (hR : MergeRelation R) (ho : R other other')
    (htarget : target ∈ S) (hbase : ∀ b, other.base = some b → b ∈ S) (met : List String) :
    RelatedOn R S (g.mergeFrom met target other) (g'.mergeFrom met target other') := by
  fun_induction ClassGraph.mergeFrom g met target other generalizing g' other' with
  | case1 g met target other hm =>
      rw [mergeFrom_of_mem hm]
      exact h
  | case2 g met target other hm hf =>
      rw [mergeFrom_of_find?_none hm (h.find?_eq_none htarget hf)]
      exact h
  | case3 g met target other hm node hf merged theirs ht =>
      rename_i hnode
      obtain ⟨node', hf', hnn⟩ := h.exists_find? htarget hf
      rw [mergeFrom_of_find? hm hf', hR.base hnn, hR.base ho, ht, hnode]
      simp only [if_true]
      exact h.mergeContent hR ho target
  | case4 g met target other hm node hf merged own theirs ht hnode hne =>
      rename_i hnone
      have hmerged := h.mergeContent hR ho target
      obtain ⟨node', hf', hnn⟩ := h.exists_find? htarget hf
      rw [mergeFrom_of_find? hm hf', hR.base hnn, hR.base ho, ht, hnode]
      simp only [if_neg hne, hmerged.find?_eq_none (hbase theirs ht) hnone, Option.elim_none]
      exact hmerged
  | case5 g met target other hm node hf merged own theirs ht hnode hne next hnext _ =>
      rename_i ih
      -- the bases are in the set, which the links do not lead out of
      have hmerged := h.mergeContent hR ho target
      have hown : own ∈ S := h.closed target htarget own ((derives_iff_of_find? hf).2 hnode)
      have habove : ∀ b, next.base = some b → b ∈ S := fun b hb =>
        hmerged.closed theirs (hbase theirs ht) b ((derives_iff_of_find? hnext).2 hb)
      obtain ⟨node', hf', hnn⟩ := h.exists_find? htarget hf
      obtain ⟨next', hnext', hnn'⟩ := hmerged.exists_find? (hbase theirs ht) hnext
      rw [mergeFrom_of_find? hm hf', hR.base hnn, hR.base ho, ht, hnode]
      simp only [if_neg hne, hnext', Option.elim_some]
      exact ih hmerged hnn' hown habove
  | case6 g met target other hm node hf merged theirs ht =>
      rename_i hnode
      obtain ⟨node', hf', hnn⟩ := h.exists_find? htarget hf
      rw [mergeFrom_of_find? hm hf', hR.base hnn, hR.base ho, ht, hnode]
      exact (h.mergeContent hR ho target).setBase hR htarget (hbase theirs ht)
  | case7 g met target other hm node hf merged =>
      rename_i ht
      obtain ⟨node', hf', hnn⟩ := h.exists_find? htarget hf
      rw [mergeFrom_of_find? hm hf', hR.base hnn, hR.base ho, ht]
      cases node.base <;> exact h.mergeContent hR ho target

theorem redirectBases (h : RelatedOn R S g g') (hR : MergeRelation R) (old : String)
    (hnew : new ∈ S) : RelatedOn R S (g.redirectBases old new) (g'.redirectBases old new) where
  node n hn := by
    rw [find?_redirectBases, find?_redirectBases]
    exact (h.node n hn).map fun _ _ hc => hR.redirect hc old new
  closed a ha b hd := by
    obtain ⟨c, hc, hb⟩ := hd.exists_find?
    rw [find?_redirectBases] at hc
    obtain ⟨d, hd, rfl⟩ := Option.map_eq_some_iff.1 hc
    rw [ClassNode.redirect] at hb
    split at hb
    · dsimp only at hb
      split at hb
      · contradiction
      · rwa [← Option.some.inj hb]
    · exact h.closed a ha b ((derives_iff_of_find? hd).2 hb)

/-- A move inside the set of names makes related graphs of related graphs. -/
theorem moveClass (h : RelatedOn R S g g') (hR : MergeRelation R) (hold : old ∈ S) (hnew : new ∈ S)
    (hbuiltin : g.isBuiltin old = false) (hbuiltin' : g'.isBuiltin old = false) (hne : old ≠ new)
    (horigin : g.find? old = some origin) (hfold : new ∈ g.names) :
    RelatedOn R S (g.moveClass old new) (g'.moveClass old new) := by
  obtain ⟨origin', horigin', hoo⟩ := h.exists_find? hold horigin
  rw [moveClass_of_mem_names hbuiltin hne horigin hfold,
    moveClass_of_mem_names hbuiltin' hne horigin' ((h.mem_names_iff hnew).2 hfold)]
  have hbase : ∀ b, origin.base = some b → b ∈ S := fun b hb =>
    h.closed old hold b ((derives_iff_of_find? horigin).2 hb)
  exact ((h.erase old).mergeFrom hR hoo hnew hbase []).redirectBases hR old hnew

end RelatedOn

/-! ### The footprint of a move -/

/-- A move touches no name outside `S`: the class leaves no base behind, or everything above the
names in `S` is in `S`. -/
structure Footprint (g : ClassGraph) (S : List String) (old new : String) : Prop where
  mem_old : old ∈ S
  mem_new : new ∈ S
  bases : (new ∈ g.names → g.LeavesBase old new) ∨ new ∈ g.names ∧ g.ClosedUp S

/-- Outside its footprint a move leads on links and changes nothing else. -/
theorem Footprint.find?_moveClass (h : g.Footprint S old new) (hmoves : ¬ g.Stays old new)
    (hn : n ∉ S) :
    (g.moveClass old new).find? n = (g.find? n).map (·.redirect old new) := by
  obtain ⟨hbuiltin, hne, origin, horigin⟩ := not_stays_iff.1 hmoves
  have hno : n ≠ old := fun hsame => hn (hsame ▸ h.mem_old)
  have hnn : n ≠ new := fun hsame => hn (hsame ▸ h.mem_new)
  rcases h.bases with hbase | ⟨hfold, hclosed⟩
  · rw [ClassGraph.find?_moveClass hbuiltin hne horigin hbase, if_neg hno, if_neg hnn]
  · have hreach : ¬ ReflTransGen (g.erase old).Derives new n := by
      intro hp
      have hp' : ReflTransGen g.Derives new n :=
        ReflTransGen.mono (fun _ _ hd => (derives_erase.1 hd).2) _ _ hp
      rcases reflTransGen_iff_eq_or_transGen.1 hp' with hsame | hp'
      · exact hnn hsame
      · exact hn (hclosed.transGen (fun _ _ => rfl) h.mem_new hp').2
    rw [moveClass_of_mem_names hbuiltin hne horigin hfold, find?_redirectBases, merge,
      find?_mergeFrom_of_not_reflTransGen hreach, find?_erase, if_neg hno]

theorem Footprint.baseName?_moveClass (h : g.Footprint S old new) (hnamed : g.Named)
    (hmoves : ¬ g.Stays old new) (hn : n ∉ S) :
    (g.moveClass old new).baseName? n
      = (g.baseName? n).map fun p => if p = old then new else p := by
  rw [baseName?, h.find?_moveClass hmoves hn, baseName?]
  cases hc : g.find? n with
  | none => rfl
  | some c =>
      have hname : c.name ≠ new := by
        rintro rfl
        exact hn (hnamed hc ▸ h.mem_new)
      exact ClassNode.base_redirect hname

theorem LeavesBase.map (h : g.LeavesBase a x) (f : String → String)
    (ha : g'.baseName? a = (g.baseName? a).map f) (hx : g'.baseName? x = (g.baseName? x).map f) :
    g'.LeavesBase a x := by
  rw [LeavesBase, ha, hx]
  rcases h with hnone | hsame
  · left
    rw [hnone, Option.map_none]
  · right
    rw [hsame]

section LedOn

variable (h : g.Footprint S a x) (hnamed : g.Named) (hmoves : ¬ g.Stays a x)
  (hbuiltin' : g'.isBuiltin a = false) (hb : b ∉ S) (hy : y ∉ S)
  (hnodes : ∀ n ∈ S, g'.find? n = (g.find? n).map (·.redirect b y))

include h hmoves hbuiltin' hb hnodes

/-- Where no link leads out of the footprint, links to a name outside it do not matter there. -/
theorem Footprint.find?_moveClass_of_closed (hfold : x ∈ g.names) (hclosed : g.ClosedUp S)
    (hn : n ∈ S) :
    (g'.moveClass a x).find? n = ((g.moveClass a x).find? n).map (·.redirect b y) := by
  obtain ⟨hbuiltin, hne, origin, horigin⟩ := not_stays_iff.1 hmoves
  -- no link of the footprint leads to `b`, before or after the move
  have hself : ∀ {k : ClassGraph}, k.ClosedUp S → ∀ n ∈ S,
      (k.find? n).map (·.redirect b y) = k.find? n := by
    intro k hk n hn
    cases hc : k.find? n with
    | none => rfl
    | some c =>
        apply congrArg some
        apply ClassNode.redirect_of_base_ne
        exact fun hbase => hb (hk n hn b ((derives_iff_of_find? hc).2 hbase))
  have hrelated : RelatedOn Eq S g g' := by
    refine ⟨fun n hn => ?_, hclosed⟩
    rw [hnodes n hn, hself hclosed n hn]
    exact .refl Eq.refl _
  have hmoved := hrelated.moveClass mergeRelation_eq h.mem_old h.mem_new hbuiltin hbuiltin' hne
    horigin hfold
  rw [hself hmoved.closed n hn]
  rcases (hmoved.node n hn).eq_or_exists with ⟨hc, hc'⟩ | ⟨c, c', hc, hc', rfl⟩
  · rw [hc, hc']
  · rw [hc, hc']

include hnamed hy

/-- Where a class leaves no base behind, links are led on to a name outside its footprint before or
after it moves. -/
theorem Footprint.find?_moveClass_of_leavesBase (hbase : x ∈ g.names → g.LeavesBase a x)
    (hn : n ∈ S) :
    (g'.moveClass a x).find? n = ((g.moveClass a x).find? n).map (·.redirect b y) := by
  obtain ⟨hbuiltin, hne, origin, horigin⟩ := not_stays_iff.1 hmoves
  have hmem : x ∈ g'.names ↔ x ∈ g.names := by
    rw [← find?_isSome_iff, ← find?_isSome_iff, hnodes x h.mem_new, Option.isSome_map]
  have hbases : ∀ n ∈ S, g'.baseName? n = (g.baseName? n).map fun p => if p = b then y else p := by
    intro n hn
    rw [baseName?, hnodes n hn, baseName?]
    cases hc : g.find? n with
    | none => rfl
    | some c =>
        have hname : c.name ≠ y := by
          rintro rfl
          exact hy (hnamed hc ▸ hn)
        exact ClassNode.base_redirect hname
  have hab : a ≠ b := fun hsame => hb (hsame ▸ h.mem_old)
  have hxb : x ≠ b := fun hsame => hb (hsame ▸ h.mem_new)
  have hya : y ≠ a := fun hsame => hy (hsame ▸ h.mem_old)
  have hxy : x ≠ y := fun hsame => hy (hsame ▸ h.mem_new)
  have horigin' : g'.find? a = some (origin.redirect b y) := by
    rw [hnodes a h.mem_old, horigin, Option.map_some]
  have hbase' : x ∈ g'.names → g'.LeavesBase a x := fun hx =>
    (hbase (hmem.1 hx)).map _ (hbases a h.mem_old) (hbases x h.mem_new)
  rw [ClassGraph.find?_moveClass hbuiltin hne horigin hbase,
    ClassGraph.find?_moveClass hbuiltin' hne horigin' hbase']
  by_cases hna : n = a
  · rw [if_pos hna, if_pos hna, Option.map_none]
  · rw [if_neg hna, if_neg hna]
    by_cases hnx : n = x
    · rw [if_pos hnx, if_pos hnx, hnodes x h.mem_new,
        arrived_redirect hab hxb hya hxy (hnamed horigin), Option.map_some]
    · rw [if_neg hnx, if_neg hnx, hnodes n hn, ClassNode.map_redirect_comm hab.symm hya hxb]

/-- A move comes to the same inside its footprint, before or after links are led on to a name
outside it. -/
theorem Footprint.find?_moveClass_of_redirect (hn : n ∈ S) :
    (g'.moveClass a x).find? n = ((g.moveClass a x).find? n).map (·.redirect b y) := by
  rcases h.bases with hbase | ⟨hfold, hclosed⟩
  · exact h.find?_moveClass_of_leavesBase hnamed hmoves hbuiltin' hb hy hnodes hbase hn
  · exact h.find?_moveClass_of_closed hmoves hbuiltin' hb hnodes hfold hclosed hn

end LedOn

/-- Moves that touch different classes have different names. -/
theorem Footprint.names_ne (hS : g.Footprint S a x) (hT : g.Footprint T b y)
    (hapart : ∀ n ∈ S, n ∉ T) : a ≠ b ∧ a ≠ y ∧ x ≠ b ∧ x ≠ y := by
  have hne : ∀ {n m : String}, n ∈ S → m ∈ T → n ≠ m := fun hn hm hsame =>
    hapart _ hn (hsame ▸ hm)
  exact ⟨hne hS.mem_old hT.mem_old, hne hS.mem_old hT.mem_new, hne hS.mem_new hT.mem_old,
    hne hS.mem_new hT.mem_new⟩

/-- A set of names that a move does not touch stays closed. -/
theorem ClosedUp.moveClass (hT : g.ClosedUp T) (hS : g.Footprint S a x) (hnamed : g.Named)
    (hmoves : ¬ g.Stays a x) (hapart : ∀ n ∈ S, n ∉ T) : (g.moveClass a x).ClosedUp T := by
  intro n hn p hd
  rw [Derives, hS.baseName?_moveClass hnamed hmoves fun hmem => hapart n hmem hn] at hd
  obtain ⟨q, hq, rfl⟩ := Option.map_eq_some_iff.1 hd
  have hqT : q ∈ T := hT n hn q hq
  have hqa : q ≠ a := fun hsame => hapart a hS.mem_old (hsame ▸ hqT)
  rwa [if_neg hqa]

/-- A footprint is still one after a move that touches other classes. -/
theorem Footprint.moveClass (hT : g.Footprint T b y) (hS : g.Footprint S a x) (hnamed : g.Named)
    (hmoves : ¬ g.Stays a x) (hapart : ∀ n ∈ S, n ∉ T) : (g.moveClass a x).Footprint T b y := by
  obtain ⟨-, hay, -, hxy⟩ := hS.names_ne hT hapart
  have hmem : y ∈ (g.moveClass a x).names ↔ y ∈ g.names :=
    mem_names_moveClass_of_ne hay.symm hxy.symm
  have hbases : ∀ n ∈ T, (g.moveClass a x).baseName? n
      = (g.baseName? n).map fun p => if p = a then x else p := fun n hn =>
    hS.baseName?_moveClass hnamed hmoves fun hnS => hapart n hnS hn
  refine ⟨hT.mem_old, hT.mem_new, ?_⟩
  rcases hT.bases with hbase | ⟨hfold, hclosed⟩
  · left
    intro hy
    exact (hbase (hmem.1 hy)).map _ (hbases b hT.mem_old) (hbases y hT.mem_new)
  · exact .inr ⟨hmem.2 hfold, hclosed.moveClass hS hnamed hmoves hapart⟩

section Exchange

variable (hS : g.Footprint S a x) (hT : g.Footprint T b y) (hnamed : g.Named)
  (hmoves : ¬ g.Stays a x) (hmoves' : ¬ g.Stays b y) (hapart : ∀ n ∈ S, n ∉ T)

include hS hT hmoves' hapart

/-- The later one of the moves still moves its class. -/
theorem Footprint.not_stays_moveClass : ¬ (g.moveClass a x).Stays b y := by
  obtain ⟨hab, -, hxb, -⟩ := hS.names_ne hT hapart
  exact mt (stays_moveClass_iff hab.symm hxb.symm).1 hmoves'

include hnamed hmoves

theorem Footprint.find?_moveClass_comm_of_mem (hn : n ∈ S) :
    ((g.moveClass a x).moveClass b y).find? n = ((g.moveClass b y).moveClass a x).find? n := by
  have hb : b ∉ S := fun hmem => hapart b hmem hT.mem_old
  have hy : y ∉ S := fun hmem => hapart y hmem hT.mem_new
  obtain ⟨hab, hay, -, -⟩ := hS.names_ne hT hapart
  have hlater := hS.not_stays_moveClass hT hmoves' hapart
  have hbuiltin : (g.moveClass b y).isBuiltin a = false :=
    (isBuiltin_moveClass_of_ne hab hay).trans (not_stays_iff.1 hmoves).1
  rw [(hT.moveClass hS hnamed hmoves hapart).find?_moveClass hlater (hapart n hn),
    hS.find?_moveClass_of_redirect hnamed hmoves hbuiltin hb hy
      (fun m hm => hT.find?_moveClass hmoves' (hapart m hm)) hn]

/-- Two moves that touch different classes can be exchanged. -/
theorem Footprint.find?_moveClass_comm (n : String) :
    ((g.moveClass a x).moveClass b y).find? n = ((g.moveClass b y).moveClass a x).find? n := by
  have hapart' : ∀ n ∈ T, n ∉ S := fun n hn hmem => hapart n hmem hn
  by_cases hnS : n ∈ S
  · exact hS.find?_moveClass_comm_of_mem hT hnamed hmoves hmoves' hapart hnS
  by_cases hnT : n ∈ T
  · exact (hT.find?_moveClass_comm_of_mem hS hnamed hmoves' hmoves hapart' hnT).symm
  obtain ⟨hab, hay, hxb, -⟩ := hS.names_ne hT hapart
  have hlater := hS.not_stays_moveClass hT hmoves' hapart
  have hlater' := hT.not_stays_moveClass hS hmoves hapart'
  rw [(hT.moveClass hS hnamed hmoves hapart).find?_moveClass hlater hnT,
    hS.find?_moveClass hmoves hnS,
    (hS.moveClass hT hnamed hmoves' hapart').find?_moveClass hlater' hnS,
    hT.find?_moveClass hmoves' hnT, ClassNode.map_redirect_comm hab hxb hay.symm]

end Exchange

end ClassGraph

end ClassInference
