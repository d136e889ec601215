import ClassInference.OrderedTable
import Mathlib.Data.List.Basic

/-!
# Tables by their views

A table is known by its keys and what stands under them, so that two ways to the same views lead to
the same table.
-/

namespace ClassInference

namespace OrderedTable

universe u v

variable {α : Type u} {β : Type v}

/-- A table is known by its keys and what stands under them. -/
theorem ext_get? {s t : OrderedTable α} (hk : s.keys = t.keys)
    (hg : ∀ k, s.get? k = t.get? k) : s = t := by
  have hview : ∀ t : OrderedTable α,
      t.entries.map (fun e => (e.1, some e.2)) = t.keys.map fun k => (k, t.get? k) := by
    intro t
    rw [keys, List.map_map]
    apply List.map_congr_left
    rintro ⟨k, v⟩ he
    simp [get?_eq_some_iff.2 he]
  have hinj : Function.Injective fun e : String × α => (e.1, some e.2) := by
    rintro ⟨k, v⟩ ⟨k', v'⟩ h
    simpa using h
  apply ext
  apply List.map_injective_iff.2 hinj
  rw [hview s, hview t, hk]
  exact List.map_congr_left fun k _ => by rw [hg]

/-- A key that is moved to a free one is replaced in its place. -/
theorem keys_rekey {t : OrderedTable α} {old new : String} (f : α → α) (h : new ∉ t.keys) :
    (t.rekey old new f).keys = t.keys.map fun k => if k = old then new else k := by
  rw [keys, rekey, dif_neg h, keys, List.map_map, List.map_map]
  apply List.map_congr_left
  intro e _
  by_cases he : e.1 = old <;> simp [he]

/-- Changing the values under different keys in turn. -/
theorem foldl_modify {es : List (String × β)}
    (hes : (es.map Prod.fst).Nodup) (f : β → α → α) (t : OrderedTable α) :
    es.foldl (fun acc e => acc.modify e.1 (f e.2)) t
      = t.map fun k v => (es.lookup k).elim v fun d => f d v := by
  induction es generalizing t with
  | nil =>
      apply ext_get? (by simp)
      intro k
      simp [get?_map]
  | cons e es ih =>
      obtain ⟨key, d⟩ := e
      rw [List.map_cons, List.nodup_cons] at hes
      rw [List.foldl_cons, ih hes.2]
      apply ext_get? (by simp)
      intro k
      rw [get?_map, get?_modify, get?_map, List.lookup_cons]
      by_cases hk : k = key
      · have hnone : es.lookup key = none := by
          rw [List.lookup_eq_none_iff]
          rintro ⟨k', d'⟩ he'
          have hne : key ≠ k' := fun he => hes.1 (List.mem_map.2 ⟨_, he', he.symm⟩)
          simpa using hne
        cases t.get? k <;> simp [hk, hnone]
      · have hb : (k == key) = false := by simpa using hk
        simp [hk, hb]

end OrderedTable

end ClassInference
