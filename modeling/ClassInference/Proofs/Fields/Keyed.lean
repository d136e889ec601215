import ClassInference.Proofs.Contents
import ClassInference.Proofs.Fields.Changes

/-!
# Keyed field tables

A table is keyed if every field stands under its wire name. The tables of all classes are, in every
graph that calls lead to: each operation writes a field under its wire name and none changes it.
-/

namespace ClassInference

/-- Every field stands under its wire name. -/
def OrderedTable.Keyed (t : OrderedTable Field) : Prop :=
  ∀ ⦃key f⦄, t.get? key = some f → f.wireName = key

namespace OrderedTable

variable {t : OrderedTable Field} {f : Field} {key : String}

theorem keyed_empty : (∅ : OrderedTable Field).Keyed := by
  intro key f h
  simp at h

theorem Keyed.of_mem_entries (ht : t.Keyed) {e : String × Field} (he : e ∈ t.entries) :
    e.2.wireName = e.1 :=
  ht (get?_eq_some_iff.2 he)

theorem Keyed.map_wireName_values (ht : t.Keyed) : t.values.map (·.wireName) = t.keys := by
  rw [values, keys, List.map_map]
  exact List.map_congr_left fun e he => ht.of_mem_entries he

theorem Keyed.find?_values (ht : t.Keyed) (key : String) :
    t.values.find? (·.wireName == key) = t.get? key := by
  apply Option.ext
  intro f
  rw [get?_eq_some_iff]
  constructor
  · intro h
    obtain ⟨e, he, rfl⟩ := List.mem_map.1 (List.mem_of_find?_eq_some h)
    have hk : e.2.wireName = key := by simpa using List.find?_some h
    rw [← hk, ht.of_mem_entries he]
    exact he
  · intro h
    have hmem : f ∈ t.values := mem_values_iff.2 ⟨key, get?_eq_some_iff.2 h⟩
    have hname : f.wireName = key := ht.of_mem_entries h
    obtain ⟨f', hf'⟩ : ∃ f', t.values.find? (·.wireName == key) = some f' := by
      rw [← Option.isSome_iff_exists, List.find?_isSome]
      exact ⟨f, hmem, by simpa using hname⟩
    -- two fields of one wire name stand under one key
    obtain ⟨key', hkey'⟩ := mem_values_iff.1 (List.mem_of_find?_eq_some hf')
    have hname' : f'.wireName = key := by simpa using List.find?_some hf'
    rw [ht hkey'] at hname'
    rw [hname', get?_eq_some_iff.2 h, Option.some.injEq] at hkey'
    rw [hf', hkey']

theorem Keyed.insert (ht : t.Keyed) (f : Field) : (t.insert f.wireName f).Keyed := by
  intro key f' h
  rw [get?_insert] at h
  split at h
  · rw [← Option.some.inj h]
    exact (‹key = f.wireName›).symm
  · exact ht h

theorem Keyed.map (ht : t.Keyed) {F : String → Field → Field}
    (hF : ∀ key f, (F key f).wireName = f.wireName) : (t.map F).Keyed := by
  intro key f h
  rw [get?_map] at h
  obtain ⟨f', hf', rfl⟩ := Option.map_eq_some_iff.1 h
  rw [hF]
  exact ht hf'

theorem Keyed.modify (ht : t.Keyed) (key : String) {F : Field → Field}
    (hF : ∀ f, (F f).wireName = f.wireName) : (t.modify key F).Keyed := by
  apply ht.map
  intro k f
  split
  · exact hF f
  · rfl

theorem Keyed.ensure (ht : t.Keyed) (key : String) : (t.ensure key (.new key)).Keyed := by
  intro k f h
  rw [get?_ensure] at h
  split at h
  · rename_i hk
    rw [hk]
    cases hf : t.get? key with
    | none =>
        rw [hf, Option.getD_none, Option.some.injEq] at h
        rw [← h]
        rfl
    | some own =>
        rw [hf, Option.getD_some, Option.some.injEq] at h
        rw [← h]
        exact ht hf
  · exact ht h

theorem Keyed.erase (ht : t.Keyed) (key : String) : (t.erase key).Keyed := by
  intro k f h
  rw [get?_erase] at h
  split at h
  · simp at h
  · exact ht h

theorem keyed_addField (ht : t.Keyed) (f : Field) : (Content.addField t f).Keyed := by
  intro key f' h
  rw [Content.addField, get?_combine] at h
  split at h
  · rename_i hkey
    rw [hkey]
    cases hf : t.get? f.wireName with
    | none =>
        rw [hf, Option.elim_none, Option.some.injEq] at h
        rw [← h]
    | some own =>
        rw [hf, Option.elim_some, Option.some.injEq] at h
        have hname : (own.merge f).wireName = own.wireName := rfl
        rw [← h, hname]
        exact ht hf
  · exact ht h

end OrderedTable

open OrderedTable

theorem Content.keyed_mapFields {F : OrderedTable Field → OrderedTable Field} {c : Content}
    (hF : ∀ t, t.Keyed → (F t).Keyed) (hc : c.fields.Keyed) : (c.mapFields F).fields.Keyed := by
  cases c with
  | record fields => exact hF fields hc
  | enumeration constants => exact keyed_empty

theorem contentInvariant_keyed : ContentInvariant (·.fields.Keyed) where
  emptyLike c := by cases c <;> exact keyed_empty
  declareEnum c constants _ := keyed_empty
  observe c key v nested hc :=
    Content.keyed_mapFields (fun _ ht => (ht.ensure key).modify key fun _ => rfl) hc
  merge c other hc := by
    cases c with
    | record fields =>
        cases other with
        | record others =>
            exact List.foldlRecOn (motive := Keyed) _ _ hc fun t ht f _ => keyed_addField ht f
        | enumeration constants => exact hc
    | enumeration constants => cases other <;> exact keyed_empty
  setOverride c wireName name hc :=
    Content.keyed_mapFields (fun _ ht => ht.modify wireName fun _ => rfl) hc
  erase c wireName hc := Content.keyed_mapFields (fun _ ht => ht.erase wireName) hc
  retype c source target asArray hc :=
    Content.keyed_mapFields
      (fun _ ht => ht.map fun _ f => f.wireName_retype source target asArray) hc

namespace ClassGraph

/-- In every node the fields stand under their wire names. -/
def FieldsKeyed (g : ClassGraph) : Prop := g.EveryContent (·.fields.Keyed)

theorem FieldsKeyed.edit {g : ClassGraph} (hg : g.FieldsKeyed) (e : Edit) :
    (g.edit e).FieldsKeyed :=
  EveryContent.edit contentInvariant_keyed.over hg (Call.admits_true (.edit e))

theorem fieldsKeyed_runCalls (builtins : Builtins) (calls : List Call) :
    ((new builtins).runCalls calls).FieldsKeyed :=
  everyContent_runCalls contentInvariant_keyed builtins calls

end ClassGraph

end ClassInference
