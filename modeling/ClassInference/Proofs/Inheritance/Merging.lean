import ClassInference.Proofs.Inheritance.Operations

/-!
# New base links

Setting a base adds one link, and only where the class is not already above its new base. Merging
adds at most one link, from a class without a base to something above the merged class. Neither
closes a cycle.
-/

namespace ClassInference

namespace ClassGraph

open Relation

variable {g k : ClassGraph} {a b sub base target : String} {other : ClassNode}

/-- The links of `k` are those of `g` with `sub` led to the node `base`, above which it does not
lie. -/
structure AddsLink (g k : ClassGraph) (sub base : String) : Prop where
  baseName? : ∀ name, k.baseName? name = if name = sub then some base else g.baseName? name
  mem_names : base ∈ g.names
  not_above : ¬ ReflTransGen g.Derives base sub

theorem AddsLink.derives_cases (h : AddsLink g k sub base) (hd : k.Derives a b) :
    (a = sub ∧ b = base) ∨ (a ≠ sub ∧ g.Derives a b) := by
  rw [Derives, h.baseName?] at hd
  split at hd
  · exact .inl ⟨‹_›, (Option.some.inj hd).symm⟩
  · exact .inr ⟨‹_›, hd⟩

/-- A path over the new links is an old one, or it leads to `sub`, takes the new link and goes on
from `base`. -/
theorem AddsLink.transGen_cases (h : AddsLink g k sub base) (hp : TransGen k.Derives a b) :
    TransGen g.Derives a b ∨ (ReflTransGen g.Derives a sub ∧ ReflTransGen g.Derives base b) := by
  induction hp with
  | single hd =>
      rcases h.derives_cases hd with ⟨rfl, rfl⟩ | ⟨-, hd⟩
      · exact .inr ⟨.refl, .refl⟩
      · exact .inl (.single hd)
  | tail _ hd ih =>
      rcases h.derives_cases hd with ⟨rfl, rfl⟩ | ⟨-, hd⟩
      · rcases ih with ih | ⟨-, hbase⟩
        · exact .inr ⟨ih.to_reflTransGen, .refl⟩
        · exact absurd hbase h.not_above
      · exact ih.imp (·.tail hd) fun ⟨hsub, hbase⟩ => ⟨hsub, hbase.tail hd⟩

theorem AddsLink.acyclic (h : AddsLink g k sub base) (hg : g.Acyclic) : k.Acyclic := by
  intro name hc
  rcases h.transGen_cases hc with hc | ⟨hsub, hbase⟩
  · exact hg name hc
  · exact h.not_above (hbase.trans hsub)

theorem setBase?_eq_some_iff :
    g.setBase? sub base = some k ↔
      (sub ∈ g.names ∧ base ∈ g.names ∧ sub ≠ base ∧ sub ∉ g.ancestors base) ∧
        g.modify sub ({ · with base := some base }) = k := by
  simp [setBase?, contains_iff, and_assoc]

/-- A base that is set is a new link that closes no cycle. -/
theorem addsLink_of_setBase? (h : g.setBase? sub base = some k) : AddsLink g k sub base := by
  obtain ⟨⟨hsub, hbase, hne, hanc⟩, rfl⟩ := setBase?_eq_some_iff.1 h
  refine ⟨?_, hbase, ?_⟩
  · intro name
    rw [baseName?_modify]
    by_cases hn : name = sub
    · obtain ⟨c, hc⟩ := exists_find?_of_mem_names hsub
      simp [hn, hc]
    · simp [hn]
  · intro hp
    rcases reflTransGen_iff_eq_or_transGen.1 hp with he | hp
    · exact hne he
    · exact hanc (mem_ancestors_iff.2 ⟨hne, hp⟩)

theorem names_setBase : (g.setBase sub base).names = g.names := by
  unfold setBase setBase?
  split <;> simp

/-- Setting a base keeps all links or adds one. -/
theorem setBase_cases (g : ClassGraph) (sub base : String) :
    g.setBase sub base = g ∨ AddsLink g (g.setBase sub base) sub base := by
  unfold setBase
  cases h : g.setBase? sub base with
  | none => exact .inl rfl
  | some k => exact .inr (addsLink_of_setBase? h)

/-! ### Merging -/

theorem mergeFrom_of_mem {met : List String} {target : String} (hm : target ∈ met) :
    g.mergeFrom met target other = g := by
  rw [mergeFrom, dif_pos hm]

theorem mergeFrom_of_find?_none {met : List String} {target : String} (hm : target ∉ met)
    (hf : g.find? target = none) : g.mergeFrom met target other = g := by
  rw [mergeFrom, dif_neg hm]
  split
  · rfl
  · simp_all

/-- One step of a merge: the content, then the bases if both classes have one. -/
theorem mergeFrom_of_find? {met : List String} {target : String} {node : ClassNode}
    (hm : target ∉ met) (hf : g.find? target = some node) (other : ClassNode) :
    g.mergeFrom met target other =
      match node.base, other.base with
      | some own, some theirs =>
        if own = theirs then g.modify target (·.mergeContent other)
        else
          ((g.modify target (·.mergeContent other)).find? theirs).elim
            (g.modify target (·.mergeContent other))
            ((g.modify target (·.mergeContent other)).mergeFrom (target :: met) own)
      | none, some theirs => (g.modify target (·.mergeContent other)).setBase target theirs
      | _, none => g.modify target (·.mergeContent other) := by
  rw [mergeFrom, dif_neg hm]
  split
  · rename_i hnone
    rw [hf] at hnone
    simp at hnone
  · rename_i node' hf'
    obtain rfl : node' = node := Option.some.inj (hf'.symm.trans hf)
    cases node'.base with
    | none => cases other.base <;> rfl
    | some own =>
        cases other.base with
        | none => rfl
        | some theirs =>
            dsimp only
            congr 1
            split <;> simp_all

/-- Merging a class that has no base, or the base of the target, is merging its content. -/
theorem merge_eq_modify (hbase : other.base = none ∨ other.base = g.baseName? target) :
    g.merge target other = g.modify target (·.mergeContent other) := by
  rw [merge]
  cases hf : g.find? target with
  | none =>
      rw [mergeFrom_of_find?_none List.not_mem_nil hf, modify_eq_self]
      simp [hf]
  | some node =>
      rw [mergeFrom_of_find? List.not_mem_nil hf]
      rw [baseName?, hf, Option.bind_some] at hbase
      rcases hbase with hnone | hsame
      · rw [hnone]
        cases node.base <;> rfl
      · rw [hsame]
        cases node.base with
        | none => rfl
        | some base => exact if_pos rfl

/-- Merging is made of content merges and set bases. -/
theorem mergeFrom_induction {motive : ClassGraph → Prop}
    (content : ∀ g target other, motive g → motive (g.modify target (·.mergeContent other)))
    (link : ∀ g sub base, motive g → motive (g.setBase sub base))
    (g : ClassGraph) (met : List String) (target : String) (other : ClassNode) (hg : motive g) :
    motive (g.mergeFrom met target other) := by
  fun_induction mergeFrom g met target other with
  | case1 => exact hg
  | case2 => exact hg
  | case3 => exact content _ _ _ hg
  | case4 => exact content _ _ _ hg
  | case5 g met target other _ _ _ _ _ _ _ _ _ _ _ _ ih => exact ih (content g target other hg)
  | case6 => exact link _ _ _ (content _ _ _ hg)
  | case7 => exact content _ _ _ hg

theorem Every.mergeFrom {P : String → ClassNode → Prop} (hg : g.Every P)
    (hcontent : ∀ name c other, P name c → P name (c.mergeContent other))
    (hbase : ∀ name c base, P name c → P name { c with base := base })
    (met : List String) (target : String) (other : ClassNode) :
    (g.mergeFrom met target other).Every P := by
  apply mergeFrom_induction (motive := (Every · P)) _ _ g met target other hg
  · intro k target other hk
    exact hk.modify (fun n c hc => hcontent n c other hc) target
  · intro k sub base hk
    exact hk.setBase hbase sub base

theorem named_mergeFrom (met : List String) (target : String) (other : ClassNode) (hg : g.Named) :
    (g.mergeFrom met target other).Named :=
  hg.mergeFrom (fun _ _ _ hc => hc) (fun _ _ _ hc => hc) met target other

theorem names_mergeFrom (met : List String) (target : String) (other : ClassNode) :
    (g.mergeFrom met target other).names = g.names := by
  apply mergeFrom_induction (motive := fun k => k.names = g.names)
  · intro k target other hk
    rw [names_modify, hk]
  · intro k sub base hk
    rw [names_setBase, hk]
  · rfl

theorem keepsLinks_mergeContent (g : ClassGraph) (target : String) (other : ClassNode) :
    g.KeepsLinks (g.modify target (·.mergeContent other)) := by
  apply keepsLinks_modify <;> intro c <;> rfl

/-- The links after merging `other`: those from before, and perhaps one more from a class without a
base to something that `other` leads to. -/
def MergesLinks (g k : ClassGraph) (other : ClassNode) : Prop :=
  (∀ name, k.baseName? name = g.baseName? name) ∨
    ∃ sub base, AddsLink g k sub base ∧ g.baseName? sub = none ∧
      ∃ first, other.base = some first ∧ ReflTransGen g.Derives first base

/-- The links of a merge do not depend on the contents. -/
theorem MergesLinks.of_modify {f : ClassNode → ClassNode} {name : String}
    (h : MergesLinks (g.modify name f) k other) (hk : g.KeepsLinks (g.modify name f)) :
    MergesLinks g k other := by
  have hd : (g.modify name f).Derives = g.Derives := by
    funext a b
    exact propext hk.derives_iff
  rcases h with h | ⟨sub, base, ⟨hb, hm, hna⟩, hsub, first, hf, hp⟩
  · exact .inl fun n => (h n).trans (hk.baseName? n)
  · rw [hd] at hna hp
    rw [names_modify] at hm
    refine .inr ⟨sub, base, ⟨?_, hm, hna⟩, (hk.baseName? sub).symm.trans hsub, first, hf, hp⟩
    intro n
    rw [hb, hk.baseName?]

theorem mergesLinks_mergeFrom (g : ClassGraph) (met : List String) (target : String)
    (other : ClassNode) : MergesLinks g (g.mergeFrom met target other) other := by
  fun_induction mergeFrom g met target other with
  | case1 => exact .inl fun _ => rfl
  | case2 => exact .inl fun _ => rfl
  | case3 => exact .inl (keepsLinks_mergeContent _ _ _).baseName?
  | case4 => exact .inl (keepsLinks_mergeContent _ _ _).baseName?
  | case5 g met target other _ node hf merged own theirs ht _ _ next hn _ ih =>
      -- what the next class leads to, `other` leads to over one link more
      have hk := keepsLinks_mergeContent g target other
      have hlink : ∀ first, next.base = some first → g.Derives theirs first := fun first hfirst =>
        hk.derives_iff.1 ((derives_iff_of_find? hn).2 hfirst)
      rcases MergesLinks.of_modify ih hk with h | ⟨sub, base, hadd, hsub, first, hfirst, hp⟩
      · exact .inl h
      · exact .inr ⟨sub, base, hadd, hsub, theirs, ht, .head (hlink first hfirst) hp⟩
  | case6 g met target other _ node hf merged theirs ht hnode =>
      have hk := keepsLinks_mergeContent g target other
      apply MergesLinks.of_modify _ hk
      rcases merged.setBase_cases target theirs with he | hadd
      · rw [he]
        exact .inl fun _ => rfl
      · refine .inr ⟨target, theirs, hadd, ?_, theirs, ht, .refl⟩
        rw [hk.baseName?, baseName?, hf, Option.bind_some, hnode]
  | case7 => exact .inl (keepsLinks_mergeContent _ _ _).baseName?

/-- A link after a merge is one from before or leads to a node. -/
theorem MergesLinks.derives_cases (h : MergesLinks g k other) (hd : k.Derives a b) :
    g.Derives a b ∨ b ∈ g.names := by
  rcases h with h | ⟨sub, base, hadd, -⟩
  · exact .inl ((h a).symm.trans hd)
  · rcases hadd.derives_cases hd with ⟨-, rfl⟩ | ⟨-, hd⟩
    · exact .inr hadd.mem_names
    · exact .inl hd

/-- No link is lost in a merge. -/
theorem MergesLinks.derives (h : MergesLinks g k other) (hd : g.Derives a b) : k.Derives a b := by
  rcases h with h | ⟨sub, base, hadd, hsub, -⟩
  · exact (h a).trans hd
  · have hne : a ≠ sub := by
      rintro rfl
      exact absurd (hsub.symm.trans hd) (by simp)
    rw [Derives, hadd.baseName?, if_neg hne]
    exact hd

theorem MergesLinks.acyclic (h : MergesLinks g k other) (hg : g.Acyclic) : k.Acyclic := by
  rcases h with h | ⟨sub, base, hadd, -⟩
  · exact hg.mono fun a _ hd => (h a).symm.trans hd
  · exact hadd.acyclic hg

end ClassGraph

end ClassInference
