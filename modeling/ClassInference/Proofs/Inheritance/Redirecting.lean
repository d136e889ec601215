import ClassInference.Proofs.Inheritance.Merging
import Mathlib.Tactic.ByContra

/-!
# Redirected base links

When a class disappears under its name, the links to it are led elsewhere: dropped with the class,
or redirected to the name that takes its place. Redirecting looks at the class itself, so that no
class becomes its own base, but not at the classes between. It closes a cycle exactly where the old
name lies above the new one and is not its base.
-/

namespace ClassInference

namespace ClassGraph

open Relation

variable {g k : ClassGraph} {a b old new name : String} {other c : ClassNode}

/-! ### Dropping -/

theorem derives_erase : (g.erase name).Derives a b ↔ a ≠ name ∧ g.Derives a b := by
  unfold Derives baseName?
  rw [find?_erase]
  by_cases ha : a = name <;> simp [ha]

theorem mem_names_erase : a ∈ (g.erase name).names ↔ a ≠ name ∧ a ∈ g.names := by
  rw [← find?_isSome_iff, ← find?_isSome_iff, find?_erase]
  by_cases ha : a = name <;> simp [ha]

theorem acyclic_erase (hg : g.Acyclic) : (g.erase name).Acyclic :=
  hg.mono fun _ _ hd => (derives_erase.1 hd).2

/-- A path to a class above which it does not lie itself survives without its own link. -/
theorem Acyclic.transGen_erase (hg : g.Acyclic) (h : TransGen g.Derives a b) :
    TransGen (g.erase b).Derives a b := by
  induction h using TransGen.head_induction_on with
  | single hd => exact .single (derives_erase.2 ⟨hg.ne hd, hd⟩)
  | head hd hp ih =>
      refine .head (derives_erase.2 ⟨?_, hd⟩) ih
      rintro rfl
      exact hg _ (.head hd hp)

/-! ### Redirecting -/

theorem derives_redirectBases (hn : g.Named) :
    (g.redirectBases old new).Derives a b ↔
      (g.Derives a old ∧ a ≠ new ∧ b = new) ∨ (g.Derives a b ∧ b ≠ old) := by
  unfold Derives baseName? redirectBases
  rw [find?_mapNodes]
  cases hf : g.find? a with
  | none => simp
  | some c =>
      have hc : c.name = a := hn hf
      by_cases hb : c.base = some old
      · by_cases ha : a = new
        · have hne : old = b → b = old := Eq.symm
          simpa [hb, hc, ha] using hne
        · simp [hb, hc, ha, eq_comm]
      · have hne : c.base = some b → b ≠ old := by
          rintro h rfl
          exact hb h
        simpa [hb] using hne

theorem named_redirectBases (hg : g.Named) : (g.redirectBases old new).Named :=
  hg.redirectBases (fun _ _ _ hc => hc) old new

@[simp] theorem names_redirectBases : (g.redirectBases old new).names = g.names := by
  simp [redirectBases]

/-- A path over the redirected links is an old one or comes through the new name. -/
theorem transGen_redirectBases_cases (hn : g.Named)
    (h : TransGen (g.redirectBases old new).Derives a b) :
    TransGen g.Derives a b ∨ (TransGen (g.redirectBases old new).Derives a new ∧
      ReflTransGen (g.redirectBases old new).Derives new b) := by
  induction h with
  | single hd =>
      rcases (derives_redirectBases hn).1 hd with ⟨-, -, rfl⟩ | ⟨hd', -⟩
      · exact .inr ⟨.single hd, .refl⟩
      · exact .inl (.single hd')
  | tail hp hd ih =>
      rcases (derives_redirectBases hn).1 hd with ⟨-, -, rfl⟩ | ⟨hd', -⟩
      · exact .inr ⟨hp.tail hd, .refl⟩
      · exact ih.imp (·.tail hd') fun ⟨ha, hb⟩ => ⟨ha, hb.tail hd⟩

theorem acyclic_redirectBases_of_new (hg : g.Acyclic) (hn : g.Named)
    (h : ¬ TransGen (g.redirectBases old new).Derives new new) :
    (g.redirectBases old new).Acyclic := by
  intro a ha
  rcases transGen_redirectBases_cases hn ha with hc | ⟨han, hna⟩
  · exact hg a hc
  · exact h (.trans_right hna han)

/-- Up to a class that derives from the old name, no link is redirected. -/
theorem transGen_redirectBases (hg : g.Acyclic) (hn : g.Named) (hp : TransGen g.Derives a b)
    (hb : g.Derives b old) : TransGen (g.redirectBases old new).Derives a b := by
  induction hp using TransGen.head_induction_on with
  | single hd => exact .single ((derives_redirectBases hn).2 (.inr ⟨hd, hg.ne hb⟩))
  | head hd hp ih =>
      refine .head ((derives_redirectBases hn).2 (.inr ⟨hd, ?_⟩)) ih
      rintro rfl
      exact hg _ (hp.tail hb)

/-- Redirecting closes a cycle exactly where the old name lies above the new one through another
class. -/
theorem acyclic_redirectBases_iff (hg : g.Acyclic) (hn : g.Named) :
    (g.redirectBases old new).Acyclic ↔ (TransGen g.Derives new old → g.Derives new old) := by
  constructor
  · intro hr hp
    by_contra hd
    -- the last class before `old` on the way up from `new` is redirected to `new`
    obtain ⟨y, hy, hyold⟩ := TransGen.tail'_iff.1 hp
    rcases reflTransGen_iff_eq_or_transGen.1 hy with rfl | hy
    · exact hd hyold
    have hyne : y ≠ new := by
      rintro rfl
      exact hd hyold
    have hpath : TransGen (g.redirectBases old new).Derives new y :=
      transGen_redirectBases hg hn hy hyold
    exact hr new (hpath.tail ((derives_redirectBases hn).2 (.inl ⟨hyold, hyne, rfl⟩)))
  · intro h
    apply acyclic_redirectBases_of_new hg hn
    by_cases hd : g.Derives new old
    · -- the new name has lost its base
      intro hc
      obtain ⟨b, hb, -⟩ := TransGen.head'_iff.1 hc
      rcases (derives_redirectBases hn).1 hb with ⟨-, hne, -⟩ | ⟨hb, hne⟩
      · exact hne rfl
      · exact hne (hb.unique hd)
    · have hnot : ¬ TransGen g.Derives new old := mt h hd
      -- no link on the way up from `new` is redirected
      have hup : ∀ x, ReflTransGen (g.redirectBases old new).Derives new x →
          ReflTransGen g.Derives new x := by
        intro x hx
        induction hx with
        | refl => exact .refl
        | tail _ hd ih =>
            rcases (derives_redirectBases hn).1 hd with ⟨hold, -, -⟩ | ⟨hd, -⟩
            · exact absurd (.tail' ih hold) hnot
            · exact ih.tail hd
      intro hc
      obtain ⟨y, hy, hynew⟩ := TransGen.tail'_iff.1 hc
      rcases (derives_redirectBases hn).1 hynew with ⟨hold, -, -⟩ | ⟨hd, -⟩
      · exact hnot (.tail' (hup y hy) hold)
      · exact hg new (.tail' (hup y hy) hd)

end ClassGraph

end ClassInference
