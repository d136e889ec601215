import ClassInference.Proofs.Inheritance.Merging
import Mathlib.Data.List.Nodup

/-!
# The order of subtype rules

A subtype rule is refused if its link would close a cycle with those that are there, so that of the
links of a cycle the last one is refused. Links that close no cycle, all of them taken together, are
set one by one without a look at the others, and then their order does not matter.
-/

namespace ClassInference

namespace ClassGraph

open Relation

variable {g : ClassGraph} {a b : String} {e e' : String × String}
  {links : List (String × String)}

/-- The links that subtype rules ask for, between two different classes of the graph. -/
def Asks (g : ClassGraph) (links : List (String × String)) (sub base : String) : Prop :=
  (sub, base) ∈ links ∧ sub ∈ g.names ∧ base ∈ g.names ∧ sub ≠ base

/-- Following the links that are asked for never comes back to a class. -/
def AsksNoCycle (g : ClassGraph) (links : List (String × String)) : Prop :=
  ∀ n, ¬ TransGen (g.Asks links) n n

/-- Links that all lead down close no cycle. -/
theorem asksNoCycle_of_rank {rank : String → Nat} (h : ∀ e ∈ links, rank e.2 < rank e.1) :
    g.AsksNoCycle links := by
  have hdown : ∀ a b, TransGen (g.Asks links) a b → rank b < rank a := by
    intro a b hpath
    induction hpath with
    | single hab => exact h _ hab.1
    | tail _ hab ih => exact Nat.lt_trans (h _ hab.1) ih
  exact fun n hn => Nat.lt_irrefl _ (hdown n n hn)

/-- Set a link without a look at the others. -/
def link (g : ClassGraph) (e : String × String) : ClassGraph :=
  if e.1 ∈ g.names ∧ e.2 ∈ g.names ∧ e.1 ≠ e.2 then g.modify e.1 ({ · with base := some e.2 })
  else g

theorem names_link (g : ClassGraph) (e : String × String) : (g.link e).names = g.names := by
  unfold link
  split
  · exact names_modify g _ _
  · rfl

/-- Two nodes are changed in either order. -/
theorem modify_comm (hab : a ≠ b) (g : ClassGraph) (f f' : ClassNode → ClassNode) :
    (g.modify a f).modify b f' = (g.modify b f').modify a f := by
  refine ext_find? rfl rfl rfl rfl ?_ ?_
  · simp only [names_modify]
  · intro n
    simp only [find?_modify]
    by_cases hn : n = a
    · have hne : n ≠ b := hn.trans_ne hab
      simp only [if_neg hne]
    · rw [if_neg hn, if_neg hn]

theorem link_comm (h : e.1 ≠ e'.1) (g : ClassGraph) :
    (g.link e).link e' = (g.link e').link e := by
  have hset : ∀ (k : ClassGraph) (e : String × String), k.names = g.names →
      k.link e = if e.1 ∈ g.names ∧ e.2 ∈ g.names ∧ e.1 ≠ e.2
        then k.modify e.1 ({ · with base := some e.2 }) else k := by
    intro k e hk
    rw [link, hk]
  rw [hset _ e' (names_link g e), hset _ e (names_link g e'), hset g e rfl, hset g e' rfl]
  split
  · split
    · exact modify_comm h g _ _
    · rfl
  · rfl

/-! ### Refused and unrefused links -/

/-- Where all links lie in a relation without cycles, a link of the relation is not refused. -/
theorem setBase_eq_link {R : String → String → Prop} (hcycle : ∀ n, ¬ TransGen R n n)
    (hlinks : ∀ a b, g.Derives a b → R a b)
    (he : e.1 ∈ g.names → e.2 ∈ g.names → e.1 ≠ e.2 → R e.1 e.2) :
    g.setBase e.1 e.2 = g.link e := by
  unfold setBase link
  by_cases hresolved : e.1 ∈ g.names ∧ e.2 ∈ g.names ∧ e.1 ≠ e.2
  · obtain ⟨hsub, hbase, hne⟩ := hresolved
    have hfree : e.1 ∉ g.ancestors e.2 := by
      rw [mem_ancestors_iff]
      rintro ⟨-, hpath⟩
      exact hcycle e.1 (.head (he hsub hbase hne) (TransGen.mono hlinks _ _ hpath))
    rw [setBase?_eq_some_iff.2 ⟨⟨hsub, hbase, hne, hfree⟩, rfl⟩, Option.getD_some,
      if_pos ⟨hsub, hbase, hne⟩]
  · rw [if_neg hresolved]
    cases hk : g.setBase? e.1 e.2 with
    | none => rfl
    | some k =>
        obtain ⟨⟨hsub, hbase, hne, -⟩, -⟩ := setBase?_eq_some_iff.1 hk
        exact absurd ⟨hsub, hbase, hne⟩ hresolved

theorem derives_link (h : (g.link e).Derives a b) :
    g.Derives a b ∨ (e.1 ∈ g.names ∧ e.2 ∈ g.names ∧ e.1 ≠ e.2) ∧ a = e.1 ∧ b = e.2 := by
  unfold link at h
  split at h
  · rename_i hresolved
    rw [Derives, baseName?_modify] at h
    split at h
    · rename_i ha
      obtain ⟨c, -, hc⟩ := Option.bind_eq_some_iff.1 h
      exact .inr ⟨hresolved, ha, (Option.some.inj hc).symm⟩
    · exact .inl h
  · exact .inl h

theorem foldl_setBase_eq_foldl_link {R : String → String → Prop}
    (hcycle : ∀ n, ¬ TransGen R n n) (hlinks : ∀ a b, g.Derives a b → R a b)
    (hasks : ∀ a b, g.Asks links a b → R a b) :
    links.foldl (fun acc e => acc.setBase e.1 e.2) g = links.foldl link g := by
  induction links generalizing g with
  | nil => rfl
  | cons e links ih =>
      have he : e.1 ∈ g.names → e.2 ∈ g.names → e.1 ≠ e.2 → R e.1 e.2 := fun hsub hbase hne =>
        hasks e.1 e.2 ⟨List.mem_cons_self, hsub, hbase, hne⟩
      rw [List.foldl_cons, List.foldl_cons, setBase_eq_link hcycle hlinks he]
      apply ih
      · intro a b hab
        rcases derives_link hab with h | ⟨⟨hsub, hbase, hne⟩, rfl, rfl⟩
        · exact hlinks a b h
        · exact he hsub hbase hne
      · intro a b hab
        rw [Asks, names_link] at hab
        exact hasks a b ⟨List.mem_cons_of_mem _ hab.1, hab.2⟩

/-- Subtype rules whose links close no cycle come to the same in any order. -/
theorem applySubtypes_eq_of_perm {r r' : RuleSet} (hbase : ∀ n, g.baseName? n = none)
    (hcycle : g.AsksNoCycle r.subtypes.entries)
    (h : r.subtypes.entries.Perm r'.subtypes.entries) :
    g.applySubtypes r = g.applySubtypes r' := by
  have hnone : ∀ a b, g.Derives a b → g.Asks r.subtypes.entries a b := by
    intro a b hab
    rw [Derives, hbase] at hab
    contradiction
  have hasks : ∀ a b, g.Asks r'.subtypes.entries a b → g.Asks r.subtypes.entries a b :=
    fun a b hab => ⟨h.mem_iff.2 hab.1, hab.2⟩
  have hswap : ∀ e ∈ r.subtypes.entries, ∀ e' ∈ r.subtypes.entries, ∀ k : ClassGraph,
      (k.link e).link e' = (k.link e').link e := by
    intro e he e' he' k
    by_cases hsame : e.1 = e'.1
    · -- a class has one rule
      have heq : e = e' := List.inj_on_of_nodup_map r.subtypes.nodup_keys he he' hsame
      rw [heq]
    · exact link_comm hsame k
  calc g.applySubtypes r
      = r.subtypes.entries.foldl link g :=
        foldl_setBase_eq_foldl_link hcycle hnone fun _ _ hab => hab
    _ = r'.subtypes.entries.foldl link g := h.foldl_eq' hswap g
    _ = g.applySubtypes r' := (foldl_setBase_eq_foldl_link hcycle hnone hasks).symm

end ClassGraph

end ClassInference
