import ClassInference.Proofs.Fields.Keyed

/-!
# Overlaid fields

Fields put over a keyed table leave it keyed: those of the table keep their places, replaced where
an own field has their wire name, and the remaining own fields follow in their order.
-/

namespace ClassInference

namespace ClassGraph

open OrderedTable

variable {t : OrderedTable Field} {own : List Field}

theorem keyed_overlay (ht : t.Keyed) (own : List Field) : (overlay t own).Keyed := by
  induction own generalizing t with
  | nil => exact ht
  | cons f own ih => exact ih (ht.insert f)

/-- An entry of a table that fields were put over. -/
def covered (own : List Field) (e : String × Field) : String × Field :=
  (e.1, (own.find? (·.wireName == e.1)).getD e.2)

theorem covered_eq_self {e : String × Field} (h : ∀ f ∈ own, f.wireName ≠ e.1) :
    covered own e = e := by
  have hnone : own.find? (·.wireName == e.1) = none := by simpa [List.find?_eq_none] using h
  rw [covered, hnone, Option.getD_none]

theorem covered_cons {f : Field} {e : String × Field} :
    covered (f :: own) e = if e.1 = f.wireName then (e.1, f) else covered own e := by
  rw [covered, List.find?_cons]
  by_cases he : e.1 = f.wireName
  · simp [he]
  · have hb : (f.wireName == e.1) = false := by simpa using Ne.symm he
    rw [hb, if_neg he, covered]

/-- Fields of different wire names over a table: replaced in place, then appended. -/
theorem entries_overlay (hown : (own.map (·.wireName)).Nodup) (t : OrderedTable Field) :
    (overlay t own).entries
      = t.entries.map (covered own)
        ++ (own.filter (·.wireName ∉ t.keys)).map fun f => (f.wireName, f) := by
  induction own generalizing t with
  | nil =>
      have hself : t.entries.map (covered []) = t.entries := List.map_id t.entries
      simp [overlay, hself]
  | cons f own ih =>
      rw [List.map_cons, List.nodup_cons] at hown
      have hrest : ∀ f' ∈ own, f'.wireName ≠ f.wireName := fun f' hf' he =>
        hown.1 (he ▸ List.mem_map_of_mem hf')
      have hself : covered own (f.wireName, f) = (f.wireName, f) := covered_eq_self hrest
      change (overlay (t.insert f.wireName f) own).entries = _
      rw [ih hown.2, keys_insert]
      by_cases hf : f.wireName ∈ t.keys
      · -- `f` takes a place, which no later field takes again
        rw [entries_insert_of_mem _ hf, if_pos hf, List.filter_cons_of_neg (by simpa using hf),
          List.map_map]
        congr 1
        apply List.map_congr_left
        intro e _
        rw [Function.comp_apply, covered_cons]
        by_cases he : e.1 = f.wireName
        · rw [if_pos he, if_pos he, he, hself]
        · rw [if_neg he, if_neg he]
      · -- `f` comes last, and all later fields come after it
        have hplaces : t.entries.map (covered (f :: own)) = t.entries.map (covered own) := by
          apply List.map_congr_left
          intro e he
          have hne : e.1 ≠ f.wireName := fun h => hf (h ▸ List.mem_map_of_mem he)
          rw [covered_cons, if_neg hne]
        have hfilter : own.filter (·.wireName ∉ t.keys ++ [f.wireName])
            = own.filter (·.wireName ∉ t.keys) := by
          apply List.filter_congr
          intro f' hf'
          simp [hrest f' hf']
        rw [entries_insert_of_not_mem _ hf, if_neg hf, List.filter_cons_of_pos (by simpa using hf),
          hplaces, hfilter]
        simp [hself]

theorem keys_overlay (hown : (own.map (·.wireName)).Nodup) (t : OrderedTable Field) :
    (overlay t own).keys = t.keys ++ (own.map (·.wireName)).filter (· ∉ t.keys) := by
  rw [keys, entries_overlay hown]
  simp [keys, covered, List.filter_map, Function.comp_def]

theorem mem_keys_overlay (hown : (own.map (·.wireName)).Nodup) {t : OrderedTable Field}
    {key : String} :
    key ∈ (overlay t own).keys ↔ key ∈ t.keys ∨ key ∈ own.map (·.wireName) := by
  rw [keys_overlay hown, List.mem_append, List.mem_filter]
  by_cases h : key ∈ t.keys <;> simp [h]

/-- What stands under a key: the own field of that wire name, otherwise what stood there before. -/
theorem get?_overlay (hown : (own.map (·.wireName)).Nodup) (t : OrderedTable Field)
    (key : String) :
    (overlay t own).get? key = (own.find? (·.wireName == key)).or (t.get? key) := by
  induction own generalizing t with
  | nil => rfl
  | cons f own ih =>
      rw [List.map_cons, List.nodup_cons] at hown
      change (overlay (t.insert f.wireName f) own).get? key = _
      rw [ih hown.2, get?_insert, List.find?_cons]
      by_cases hk : key = f.wireName
      · have hnone : own.find? (·.wireName == f.wireName) = none := by
          rw [List.find?_eq_none]
          intro f' hf'
          have hne : f'.wireName ≠ f.wireName := fun he =>
            hown.1 (he ▸ List.mem_map_of_mem (f := (·.wireName)) hf')
          simpa using hne
        simp [hk, hnone]
      · have hb : (f.wireName == key) = false := by simpa using Ne.symm hk
        simp [hk, hb]

theorem values_overlay (ht : t.Keyed) (hown : (own.map (·.wireName)).Nodup) :
    (overlay t own).values
      = t.values.map (fun f => (own.find? (·.wireName == f.wireName)).getD f)
        ++ own.filter (·.wireName ∉ t.keys) := by
  rw [values, entries_overlay hown, List.map_append, List.map_map, values, List.map_map,
    List.map_map]
  congr 1
  · apply List.map_congr_left
    intro e he
    simp [covered, ht.of_mem_entries he]
  · simp [Function.comp_def]

end ClassGraph

end ClassInference
