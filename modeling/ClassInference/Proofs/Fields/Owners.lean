import ClassInference.Proofs.Fields.Merged
import ClassInference.Proofs.Fields.Views
import ClassInference.Proofs.TypeRenames.Spared

/-!
# Owners of effective fields

The effective fields of a class have the wire names of the fields that some class owns to which its
base links lead. This holds on every graph, also where links lead in a circle. What a change of the
contents or one more link makes of the effective wire names can be seen from there.
-/

namespace ClassInference

namespace ClassGraph

open Relation OrderedTable

variable {g k : ClassGraph} {a b c sub base target w : String} {met : List String}

/-- The wire names of the own fields of a class. -/
def ownNames (g : ClassGraph) (name : String) : List String :=
  (g.content? name).elim [] (·.fields.keys)

/-- The wire names of the effective fields of a class. -/
def effectiveNames (g : ClassGraph) (name : String) : List String :=
  (g.effectiveFields name).map (·.wireName)

/-- Some class to which the base links of `name` lead owns a field of the wire name. -/
def Provides (g : ClassGraph) (name wireName : String) : Prop :=
  ∃ b, ReflTransGen g.Derives name b ∧ wireName ∈ g.ownNames b

theorem ownNames_of_find? {d : ClassNode} (h : g.find? a = some d) :
    g.ownNames a = d.content.fields.keys := by
  rw [ownNames, content?, h]
  rfl

theorem ownNames_of_find?_none (h : g.find? a = none) : g.ownNames a = [] := by
  rw [ownNames, content?, h]
  rfl

theorem mem_names_of_mem_ownNames (h : w ∈ g.ownNames a) : a ∈ g.names := by
  by_contra hn
  rw [ownNames_of_find?_none (find?_eq_none_iff.2 hn)] at h
  simp at h

/-! ### The walk to the owners -/

/-- The lineage of a class: itself and its ancestors, nearest first. -/
theorem chain_nil_some (g : ClassGraph) (a : String) : g.chain [] (some a) = a :: g.ancestors a :=
  chain_of_not_mem List.not_mem_nil

theorem mem_lineage_iff : b ∈ a :: g.ancestors a ↔ ReflTransGen g.Derives a b := by
  rw [List.mem_cons, mem_ancestors_iff, reflTransGen_iff_eq_or_transGen]
  by_cases hb : b = a <;> simp [hb]

/-- The walk that collects fields goes through the same classes as the walk to the ancestors. -/
theorem mem_keys_effectiveFrom_iff (hk : g.FieldsKeyed) :
    w ∈ (g.effectiveFrom met a).keys ↔ ∃ b ∈ g.chain met (some a), w ∈ g.ownNames b := by
  fun_induction effectiveFrom g met a with
  | case1 met name hm => simp [chain_of_mem hm]
  | case2 met name hm hf =>
      have hnone : g.baseName? name = none := by rw [baseName?, hf, Option.bind_none]
      simp [chain_of_not_mem hm, hnone, ownNames_of_find?_none hf]
  | case3 met name hm d hd _ ih =>
      have hbase : g.baseName? name = d.base := by simp [baseName?, hd]
      have hown : d.fields.map (·.wireName) = g.ownNames name := by
        rw [ClassNode.fields, (hk hd).map_wireName_values, ownNames_of_find? hd]
      rw [mem_keys_overlay (hk.nodup_wireNames hd), hown, chain_of_not_mem hm, hbase]
      cases hb : d.base with
      | none => simp
      | some b =>
          simp only [ih b, List.mem_cons, exists_eq_or_imp]
          exact or_comm

theorem mem_effectiveNames_iff (hk : g.FieldsKeyed) :
    w ∈ g.effectiveNames a ↔ g.Provides a w := by
  rw [effectiveNames, map_wireName_effectiveFields, effectiveTable, mem_keys_effectiveFrom_iff hk,
    chain_nil_some]
  exact exists_congr fun b => and_congr_left fun _ => mem_lineage_iff

/-! ### Link by link -/

theorem Provides.of_own (h : w ∈ g.ownNames a) : g.Provides a w := ⟨a, .refl, h⟩

theorem Provides.of_reflTransGen (hp : ReflTransGen g.Derives a b) (h : g.Provides b w) :
    g.Provides a w := by
  obtain ⟨c, hbc, hc⟩ := h
  exact ⟨c, hp.trans hbc, hc⟩

theorem provides_iff_of_derives (h : g.Derives a b) :
    g.Provides a w ↔ w ∈ g.ownNames a ∨ g.Provides b w := by
  constructor
  · rintro ⟨c, hac, hc⟩
    rcases hac.cases_head with rfl | ⟨d, had, hdc⟩
    · exact .inl hc
    · obtain rfl := h.unique had
      exact .inr ⟨c, hdc, hc⟩
  · rintro (hown | hb)
    · exact .of_own hown
    · exact hb.of_reflTransGen (.single h)

theorem provides_iff_of_baseName? (h : g.baseName? a = none) :
    g.Provides a w ↔ w ∈ g.ownNames a := by
  constructor
  · rintro ⟨c, hac, hc⟩
    rcases reflTransGen_iff_eq_or_transGen.1 hac with rfl | hp
    · exact hc
    · exact absurd hp (not_transGen_of_baseName? h)
  · exact .of_own

/-! ### Changes -/

theorem ownNames_eq_of_content? (h : k.content? a = g.content? a) :
    k.ownNames a = g.ownNames a := by
  rw [ownNames, h, ownNames]

/-- No path from the base of a new link comes back to the link. -/
theorem AddsLink.reflTransGen_base_iff (h : AddsLink g k sub base) :
    ReflTransGen k.Derives base b ↔ ReflTransGen g.Derives base b := by
  constructor
  · intro hp
    rcases reflTransGen_iff_eq_or_transGen.1 hp with rfl | hp
    · exact .refl
    · rcases h.transGen_cases hp with hp | ⟨hback, -⟩
      · exact hp.to_reflTransGen
      · exact absurd hback h.not_above
  · intro hp
    induction hp with
    | refl => exact .refl
    | @tail c d hbc hcd ih =>
        have hne : c ≠ sub := by
          rintro rfl
          exact h.not_above hbc
        exact ih.tail ((h.baseName? c).trans ((if_neg hne).trans hcd))

/-- A new link leads to what its base provides. -/
theorem AddsLink.provides_iff (h : AddsLink g k sub base) (hown : k.ownNames = g.ownNames) :
    k.Provides sub w ↔ w ∈ g.ownNames sub ∨ g.Provides base w := by
  have hlink : k.Derives sub base := (h.baseName? sub).trans (if_pos rfl)
  have hbase : k.Provides base w ↔ g.Provides base w := by
    unfold Provides
    simp only [hown, h.reflTransGen_base_iff]
  rw [provides_iff_of_derives hlink, hown, hbase]

end ClassGraph

end ClassInference
