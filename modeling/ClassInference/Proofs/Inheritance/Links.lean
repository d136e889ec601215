import ClassInference.ClassGraph.Hierarchy
import Mathlib.Logic.Relation

/-!
# Base links

Base links as a relation between class names. A class has at most one base, so what lies above a
class is a single chain, and the walk that lists the ancestors finds exactly that chain. Where no
class lies above itself, the ancestors of a class are its base and the ancestors of its base.
-/

namespace ClassInference

namespace ClassGraph

open Relation

variable {g k : ClassGraph} {a b c : String}

/-- The class `sub` has the base link `base`. -/
def Derives (g : ClassGraph) (sub base : String) : Prop := g.baseName? sub = some base

instance (g : ClassGraph) (sub base : String) : Decidable (g.Derives sub base) :=
  inferInstanceAs (Decidable (_ = _))

/-- Following base links from a class, any number of steps, never comes back to it. -/
def Acyclic (g : ClassGraph) : Prop := ∀ name, ¬ TransGen g.Derives name name

theorem Derives.unique (hb : g.Derives a b) (hc : g.Derives a c) : b = c :=
  Option.some.inj (hb.symm.trans hc)

theorem Derives.exists_find? (h : g.Derives a b) : ∃ c, g.find? a = some c ∧ c.base = some b :=
  Option.bind_eq_some_iff.1 h

theorem Derives.mem_names (h : g.Derives a b) : a ∈ g.names := by
  obtain ⟨d, hd, -⟩ := h.exists_find?
  exact mem_names_of_find? hd

theorem derives_iff_of_find? {d : ClassNode} (hd : g.find? a = some d) :
    g.Derives a b ↔ d.base = some b := by
  simp [Derives, baseName?, hd]

theorem Acyclic.ne (hg : g.Acyclic) (h : g.Derives a b) : a ≠ b := by
  rintro rfl
  exact hg a (.single h)

/-- Fewer links close no cycle. -/
theorem Acyclic.mono (hg : g.Acyclic) (h : ∀ a b, k.Derives a b → g.Derives a b) : k.Acyclic :=
  fun name hc => hg name (TransGen.mono h _ _ hc)

theorem not_transGen_of_baseName? (h : g.baseName? a = none) : ¬ TransGen g.Derives a c := by
  rw [TransGen.head'_iff]
  rintro ⟨d, hd, -⟩
  exact absurd (h.symm.trans hd) (by simp)

/-! ### The walk to the ancestors -/

@[simp] theorem chain_none (met : List String) : g.chain met none = [] := by
  rw [chain]

theorem chain_of_mem {met : List String} (h : a ∈ met) : g.chain met (some a) = [] := by
  rw [chain, dif_pos h]

theorem chain_of_not_mem {met : List String} (h : a ∉ met) :
    g.chain met (some a) = a :: g.chain (a :: met) (g.baseName? a) := by
  rw [chain, dif_neg h]
  split
  · rename_i hf
    simp [baseName?, hf]
  · rename_i d hf
    simp [baseName?, hf]

theorem not_mem_of_mem_chain {met : List String} {link : Option String}
    (h : a ∈ g.chain met link) : a ∉ met := by
  fun_induction chain g met link with
  | case1 => simp at h
  | case2 => simp at h
  | case3 met name hm hf =>
      rw [List.mem_singleton] at h
      exact h ▸ hm
  | case4 met name hm d hf _ ih =>
      rcases List.mem_cons.1 h with rfl | h
      · exact hm
      · exact fun ha => ih h (List.mem_cons_of_mem _ ha)

/-- A walk visits only names that its first link leads to. -/
theorem reflTransGen_of_mem_chain {met : List String} {link : Option String}
    (h : a ∈ g.chain met link) : ∃ b, link = some b ∧ ReflTransGen g.Derives b a := by
  fun_induction chain g met link with
  | case1 => simp at h
  | case2 => simp at h
  | case3 met name hm hf =>
      rw [List.mem_singleton] at h
      exact ⟨name, rfl, h ▸ .refl⟩
  | case4 met name hm d hf _ ih =>
      refine ⟨name, rfl, ?_⟩
      rcases List.mem_cons.1 h with rfl | h
      · exact .refl
      · obtain ⟨b, hb, hba⟩ := ih h
        exact .head ((derives_iff_of_find? hf).2 hb) hba

/-- A walk goes on from every name it visits, unless it has met the next one. -/
theorem mem_chain_of_derives {met : List String} {link : Option String}
    (h : a ∈ g.chain met link) (hab : g.Derives a b) : b ∈ met ∨ b ∈ g.chain met link := by
  fun_induction chain g met link with
  | case1 => simp at h
  | case2 => simp at h
  | case3 met name hm hf =>
      rw [List.mem_singleton] at h
      subst h
      exact absurd hab.mem_names (find?_eq_none_iff.1 hf)
  | case4 met name hm d hf _ ih =>
      rcases List.mem_cons.1 h with rfl | h
      · rw [(derives_iff_of_find? hf).1 hab]
        by_cases hmet : b ∈ a :: met
        · rcases List.mem_cons.1 hmet with rfl | hmet
          · exact .inr List.mem_cons_self
          · exact .inl hmet
        · exact .inr (by simp [chain_of_not_mem hmet])
      · rcases ih h with hb | hb
        · rcases List.mem_cons.1 hb with rfl | hb
          · exact .inr List.mem_cons_self
          · exact .inl hb
        · exact .inr (List.mem_cons_of_mem _ hb)

/-- The ancestors of a class are what lies above it, on every graph. -/
theorem mem_ancestors_iff : b ∈ g.ancestors a ↔ b ≠ a ∧ TransGen g.Derives a b := by
  constructor
  · intro h
    obtain ⟨c, hc, hcb⟩ := reflTransGen_of_mem_chain h
    have hne : b ≠ a := by simpa using not_mem_of_mem_chain h
    exact ⟨hne, .head' hc hcb⟩
  · rintro ⟨hne, h⟩
    -- the walk keeps up with the path: it returns to `a` or it has visited the end
    have hvisit : ∀ c, TransGen g.Derives a c → c = a ∨ c ∈ g.ancestors a := by
      have hfirst : ∀ c, g.Derives a c → c = a ∨ c ∈ g.ancestors a := by
        intro c hac
        by_cases hc : c = a
        · exact .inl hc
        · right
          have hmet : c ∉ [a] := by simpa using hc
          rw [ancestors, hac, chain_of_not_mem hmet]
          exact List.mem_cons_self
      intro c hc
      induction hc with
      | single hac => exact hfirst _ hac
      | tail _ hdc ih =>
          rcases ih with rfl | hd
          · exact hfirst _ hdc
          · exact (mem_chain_of_derives hd hdc).imp_left List.mem_singleton.1
    exact (hvisit b h).resolve_left hne

/-- A class lies above itself exactly if its base is the class or has it among its ancestors. -/
theorem transGen_self_iff :
    TransGen g.Derives a a ↔ ∃ b, g.Derives a b ∧ (b = a ∨ a ∈ g.ancestors b) := by
  rw [TransGen.head'_iff]
  apply exists_congr
  intro b
  apply and_congr_right
  intro _
  rw [reflTransGen_iff_eq_or_transGen, mem_ancestors_iff, eq_comm]
  by_cases hb : b = a <;> simp [hb, Ne.symm]

theorem acyclic_iff :
    g.Acyclic ↔ ∀ name ∈ g.names, ∀ b ∈ g.baseName? name, b ≠ name ∧ name ∉ g.ancestors b := by
  constructor
  · intro hg name _ b hb
    rw [← not_or]
    intro h
    exact hg name (transGen_self_iff.2 ⟨b, hb, h⟩)
  · intro h name hc
    obtain ⟨b, hb, hself⟩ := transGen_self_iff.1 hc
    obtain ⟨hne, hnot⟩ := h name hb.mem_names b hb
    exact hself.elim hne hnot

instance (g : ClassGraph) : Decidable g.Acyclic := decidable_of_iff _ acyclic_iff.symm

/-- A walk depends on the names it leaves out only where it can reach them. -/
theorem chain_congr {met met' : List String} {link : Option String}
    (h : ∀ b c, link = some b → ReflTransGen g.Derives b c → (c ∈ met ↔ c ∈ met')) :
    g.chain met link = g.chain met' link := by
  fun_induction chain g met link generalizing met' with
  | case1 => rw [chain_none]
  | case2 met name hm => rw [chain_of_mem ((h name name rfl .refl).1 hm)]
  | case3 met name hm hf =>
      have hm' : name ∉ met' := mt (h name name rfl .refl).2 hm
      simp [chain_of_not_mem hm', baseName?, hf]
  | case4 met name hm d hf _ ih =>
      have hm' : name ∉ met' := mt (h name name rfl .refl).2 hm
      have hd : g.baseName? name = d.base := by simp [baseName?, hf]
      rw [chain_of_not_mem hm', hd]
      congr 1
      apply ih
      intro b c hb hbc
      have hc := h name c rfl (.head ((derives_iff_of_find? hf).2 hb) hbc)
      rw [List.mem_cons, List.mem_cons, hc]

/-- A walk depends on the links alone. -/
theorem chain_eq_of_baseName? (h : ∀ n, k.baseName? n = g.baseName? n) (met : List String)
    (link : Option String) : k.chain met link = g.chain met link := by
  fun_induction chain g met link with
  | case1 => exact chain_none _
  | case2 met name hm => exact chain_of_mem hm
  | case3 met name hm hf =>
      have hnone : g.baseName? name = none := by simp [baseName?, hf]
      rw [chain_of_not_mem hm, h, hnone, chain_none]
  | case4 met name hm c hf _ ih =>
      have hbase : g.baseName? name = c.base := by simp [baseName?, hf]
      rw [chain_of_not_mem hm, h, hbase, ih]

theorem ancestors_of_baseName? (h : g.baseName? a = none) : g.ancestors a = [] := by
  rw [ancestors, h, chain_none]

/-- Without cycles, the ancestors of a class are its base and the ancestors of its base. -/
theorem Acyclic.ancestors_of_derives (hg : g.Acyclic) (h : g.Derives a b) :
    g.ancestors a = b :: g.ancestors b := by
  have hne : b ∉ [a] := by simpa using (hg.ne h).symm
  rw [ancestors, h, chain_of_not_mem hne, ancestors]
  congr 1
  apply chain_congr
  intro c d hc hcd
  -- what lies above `b` is neither `b` nor `a`
  have hbd : TransGen g.Derives b d := .head' hc hcd
  have hdb : d ≠ b := by
    rintro rfl
    exact hg d hbd
  have hda : d ≠ a := by
    rintro rfl
    exact hg d (.head h hbd)
  simp [hdb, hda]

/-- To prove something of every class of an acyclic graph, prove it of the classes without a base
and pass it from a base to what derives from it. -/
theorem Acyclic.induction {motive : String → Prop} (hg : g.Acyclic)
    (root : ∀ a, g.baseName? a = none → motive a)
    (derived : ∀ a b, g.Derives a b → motive b → motive a) (a : String) : motive a := by
  obtain ⟨n, hn⟩ : ∃ n, (g.ancestors a).length = n := ⟨_, rfl⟩
  induction n generalizing a with
  | zero =>
      cases hb : g.baseName? a with
      | none => exact root a hb
      | some b => simp [hg.ancestors_of_derives hb] at hn
  | succ n ih =>
      cases hb : g.baseName? a with
      | none => exact root a hb
      | some b =>
          rw [hg.ancestors_of_derives hb, List.length_cons, Nat.add_right_cancel_iff] at hn
          exact derived a b hb (ih b hn)

end ClassGraph

end ClassInference
