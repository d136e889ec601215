import ClassInference.Proofs.Fields.Keyed
import ClassInference.Proofs.Tables

/-!
# Noted and merged fields

What taking note of a value and what merging a table of fields do to a table: the keys that come
new, and what stands under each key afterwards. Noting a value in the table that is merged comes to
the same as noting it after the merge.
-/

namespace ClassInference

open Json (Value)

namespace Field

/-- Taking note of a value and merging are done in either order. -/
theorem merge_observe (f other : Field) (v : Value) (nested : String) :
    f.merge (other.observe v nested) = (f.merge other).observe v nested := by
  have hnested : ∀ noted : Option String,
      (f.nested <|> other.nested <|> noted) = ((f.nested <|> other.nested) <|> noted) := by
    intro noted
    cases f.nested <;> rfl
  simp only [merge, observe, List.append_assoc, Bool.or_assoc, hnested]

theorem merge_new (f : Field) (wireName : String) : f.merge (new wireName) = f := by
  simp [merge, new]

end Field

namespace Content

/-- Take note of a value under a key, creating its field on first sight. -/
def note (fields : OrderedTable Field) (key : String) (v : Value) (nested : String) :
    OrderedTable Field :=
  (fields.ensure key (.new key)).modify key (·.observe v nested)

/-- Merge the fields of a table in their order. -/
def mergeFields (fields others : OrderedTable Field) : OrderedTable Field :=
  others.values.foldl addField fields

variable {t u : OrderedTable Field} {key : String} {v : Value} {nested : String}

theorem keys_note :
    (note t key v nested).keys = if key ∈ t.keys then t.keys else t.keys ++ [key] := by
  rw [note, OrderedTable.keys_modify, OrderedTable.keys_ensure]

theorem get?_note (t : OrderedTable Field) (key : String) (v : Value) (nested k : String) :
    (note t key v nested).get? k
      = if k = key then some (((t.get? key).getD (.new key)).observe v nested) else t.get? k := by
  rw [note, OrderedTable.get?_modify, OrderedTable.get?_ensure]
  by_cases hk : k = key <;> simp [hk]

theorem keyed_note (ht : t.Keyed) : (note t key v nested).Keyed :=
  (ht.ensure key).modify key fun _ => rfl

theorem keys_foldl_addField {fs : List Field} (hfs : (fs.map (·.wireName)).Nodup)
    (t : OrderedTable Field) :
    (fs.foldl addField t).keys = t.keys ++ (fs.map (·.wireName)).filter (· ∉ t.keys) := by
  induction fs generalizing t with
  | nil => simp
  | cons f fs ih =>
      rw [List.map_cons, List.nodup_cons] at hfs
      rw [List.foldl_cons, ih hfs.2, addField, OrderedTable.keys_combine, List.map_cons]
      by_cases hf : f.wireName ∈ t.keys
      · rw [if_pos hf, List.filter_cons_of_neg (by simpa using hf)]
      · rw [if_neg hf, List.filter_cons_of_pos (by simpa using hf), List.append_assoc,
          List.singleton_append]
        congr 2
        -- no later field has the wire name that came new
        apply List.filter_congr
        intro w hw
        have hne : w ≠ f.wireName := fun he => hfs.1 (he ▸ hw)
        simp [hne]

theorem get?_foldl_addField {fs : List Field} (hfs : (fs.map (·.wireName)).Nodup)
    (t : OrderedTable Field) (k : String) :
    (fs.foldl addField t).get? k
      = (fs.find? (·.wireName == k)).elim (t.get? k)
          fun f => some ((t.get? k).elim f (·.merge f)) := by
  induction fs generalizing t with
  | nil => rfl
  | cons f fs ih =>
      rw [List.map_cons, List.nodup_cons] at hfs
      rw [List.foldl_cons, ih hfs.2, addField, OrderedTable.get?_combine, List.find?_cons]
      by_cases hk : k = f.wireName
      · have hnone : fs.find? (·.wireName == f.wireName) = none := by
          rw [List.find?_eq_none]
          intro f' hf'
          have hne : f'.wireName ≠ f.wireName := fun he =>
            hfs.1 (he ▸ List.mem_map_of_mem (f := (·.wireName)) hf')
          simpa using hne
        simp [hk, hnone]
      · have hb : (f.wireName == k) = false := by simpa using Ne.symm hk
        simp [hk, hb]

/-- The keys of a merged table: the own ones, then those that come new. -/
theorem keys_mergeFields (hu : u.Keyed) (t : OrderedTable Field) :
    (mergeFields t u).keys = t.keys ++ u.keys.filter (· ∉ t.keys) := by
  rw [← hu.map_wireName_values]
  exact keys_foldl_addField (hu.map_wireName_values ▸ u.nodup) t

/-- What stands under a key of a merged table: the own field, the other's taken in. -/
theorem get?_mergeFields (hu : u.Keyed) (t : OrderedTable Field) (k : String) :
    (mergeFields t u).get? k
      = (u.get? k).elim (t.get? k) fun f => some ((t.get? k).elim f (·.merge f)) := by
  rw [← hu.find?_values]
  exact get?_foldl_addField (hu.map_wireName_values ▸ u.nodup) t k

/-- What has been observed of a merged field: the own observations, then the other's. -/
theorem observed_mergeFields (hu : u.Keyed) {f : Field}
    (hf : (mergeFields t u).get? key = some f) :
    f.observed = ((t.get? key).elim [] (·.observed)) ++ (u.get? key).elim [] (·.observed) := by
  rw [get?_mergeFields hu] at hf
  cases hother : u.get? key with
  | none =>
      rw [hother, Option.elim_none] at hf
      simp [hf]
  | some other =>
      rw [hother, Option.elim_some, Option.some.injEq] at hf
      cases hown : t.get? key <;> rw [hown] at hf <;> simp [← hf, Field.merge]

/-- A value noted in the table that is merged is noted by the merge. -/
theorem mergeFields_note (hu : u.Keyed) (t : OrderedTable Field) (key : String) (v : Value)
    (nested : String) :
    mergeFields t (note u key v nested) = note (mergeFields t u) key v nested := by
  apply OrderedTable.ext_get?
  · rw [keys_mergeFields (keyed_note hu), keys_note, keys_note]
    simp only [keys_mergeFields hu]
    by_cases hk : key ∈ u.keys
    · simp [hk]
    · by_cases ht : key ∈ t.keys <;> simp [hk, ht, List.filter_append]
  · intro k
    rw [get?_mergeFields (keyed_note hu), get?_note, get?_note, get?_mergeFields hu,
      get?_mergeFields hu]
    by_cases hk : k = key
    · subst hk
      cases ht : t.get? k <;> cases hf : u.get? k <;> simp [Field.merge_observe, Field.merge_new]
    · simp [hk]

end Content

end ClassInference
