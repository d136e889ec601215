/-!
# Ordered tables

A table from names to values that remembers the order in which its keys came. Writing to a key that
is present keeps its place; erasing a key moves the later ones up. `keys` and `get?` are the two
views: a lemma per operation says what it does to each.
-/

namespace ClassInference

universe u v

/-- Entries in the order of their keys' first writing, no key twice. -/
structure OrderedTable (α : Type u) where
  entries : List (String × α)
  nodup_keys : (entries.map Prod.fst).Nodup

namespace OrderedTable

variable {α : Type u} {β : Type v}

theorem ext {s t : OrderedTable α} (h : s.entries = t.entries) : s = t := by
  cases s; cases t; cases h; rfl

instance [Repr α] : Repr (OrderedTable α) := ⟨fun t n => reprPrec t.entries n⟩

instance [DecidableEq α] : DecidableEq (OrderedTable α) := fun s t =>
  if h : s.entries = t.entries then isTrue (ext h) else isFalse fun e => h (congrArg entries e)

def empty : OrderedTable α := ⟨[], by simp⟩

instance : EmptyCollection (OrderedTable α) := ⟨empty⟩

instance : Inhabited (OrderedTable α) := ⟨empty⟩

def keys (t : OrderedTable α) : List String := t.entries.map Prod.fst

def values (t : OrderedTable α) : List α := t.entries.map Prod.snd

def size (t : OrderedTable α) : Nat := t.entries.length

def isEmpty (t : OrderedTable α) : Bool := t.entries.isEmpty

def get? (t : OrderedTable α) (key : String) : Option α := t.entries.lookup key

def contains (t : OrderedTable α) (key : String) : Bool := t.keys.contains key

theorem contains_iff {t : OrderedTable α} {key : String} :
    t.contains key = true ↔ key ∈ t.keys := by
  simp [contains]

/-- Replace every value; keys and their order stay. -/
def map (f : String → α → β) (t : OrderedTable α) : OrderedTable β where
  entries := t.entries.map fun e => (e.1, f e.1 e.2)
  nodup_keys := by simpa [Function.comp_def] using t.nodup_keys

/-- Append an entry under a new key. -/
def push (t : OrderedTable α) (key : String) (value : α) (h : key ∉ t.keys) : OrderedTable α where
  entries := t.entries ++ [(key, value)]
  nodup_keys := by
    have : ∀ a ∈ t.entries, ¬ a.1 = key := fun a ha e =>
      h (e ▸ List.mem_map_of_mem (f := Prod.fst) ha)
    simpa [List.nodup_append, t.nodup_keys] using this

/-- Change the value under `key`, if there is one. -/
def modify (t : OrderedTable α) (key : String) (f : α → α) : OrderedTable α :=
  t.map fun k v => if k = key then f v else v

/-- Write `value` under `key`: in place if the key is present, at the end otherwise. -/
def insert (t : OrderedTable α) (key : String) (value : α) : OrderedTable α :=
  if h : key ∈ t.keys then t.modify key fun _ => value else t.push key value h

/-- The table with `key` present: `value` is appended only if it was not. -/
def ensure (t : OrderedTable α) (key : String) (value : α) : OrderedTable α :=
  if h : key ∈ t.keys then t else t.push key value h

/-- Combine `value` into the entry under `key`, or append it. -/
def combine (t : OrderedTable α) (key : String) (merge : α → α) (value : α) : OrderedTable α :=
  if h : key ∈ t.keys then t.modify key merge else t.push key value h

def erase (t : OrderedTable α) (key : String) : OrderedTable α where
  entries := t.entries.filter fun e => e.1 != key
  nodup_keys := t.nodup_keys.sublist (List.filter_sublist.map _)

/-- Move the entry under `old` to the key `new` in its place, its value changed by `f`. Nothing
happens if `new` is taken. -/
def rekey (t : OrderedTable α) (old new : String) (f : α → α) : OrderedTable α :=
  if h : new ∈ t.keys then t else
    { entries := t.entries.map fun e => if e.1 = old then (new, f e.2) else e
      nodup_keys := by
        have hk : (t.entries.map fun e => if e.1 = old then (new, f e.2) else e).map Prod.fst
            = t.keys.map fun k => if k = old then new else k := by
          simp only [keys, List.map_map]
          apply List.map_congr_left
          intro e _
          by_cases he : e.1 = old <;> simp [he]
        rw [hk]
        have hn : t.keys.Nodup := t.nodup_keys
        revert hn h
        generalize t.keys = ks
        intro h hn
        induction ks with
        | nil => simp
        | cons k ks ih =>
          simp only [List.mem_cons, not_or] at h
          simp only [List.nodup_cons] at hn
          simp only [List.map_cons, List.nodup_cons, List.mem_map, not_exists, not_and]
          refine ⟨fun x hx e => ?_, ih h.2 hn.2⟩
          by_cases h1 : x = old <;> by_cases h2 : k = old
          · exact hn.1 (h2 ▸ h1 ▸ hx)
          · rw [if_pos h1, if_neg h2] at e; exact h.1 e
          · rw [if_neg h1, if_pos h2] at e; exact h.2 (e ▸ hx)
          · rw [if_neg h1, if_neg h2] at e; exact hn.1 (e ▸ hx) }

/-- Write the entries in turn. -/
def insertAll (t : OrderedTable α) (new : List (String × α)) : OrderedTable α :=
  new.foldl (fun acc e => acc.insert e.1 e.2) t

def ofList (entries : List (String × α)) : OrderedTable α := insertAll ∅ entries

/-! ### Keys -/

@[simp] theorem keys_empty : (∅ : OrderedTable α).keys = [] := rfl

@[simp] theorem keys_map (f : String → α → β) (t : OrderedTable α) : (t.map f).keys = t.keys := by
  simp [keys, map, Function.comp_def]

@[simp] theorem keys_push (t : OrderedTable α) (key : String) (value : α) (h : key ∉ t.keys) :
    (t.push key value h).keys = t.keys ++ [key] := by
  simp [keys, push]

@[simp] theorem keys_modify (t : OrderedTable α) (key : String) (f : α → α) :
    (t.modify key f).keys = t.keys := by
  simp [modify]

theorem keys_insert (t : OrderedTable α) (key : String) (value : α) :
    (t.insert key value).keys = if key ∈ t.keys then t.keys else t.keys ++ [key] := by
  unfold insert; split <;> simp

theorem keys_ensure (t : OrderedTable α) (key : String) (value : α) :
    (t.ensure key value).keys = if key ∈ t.keys then t.keys else t.keys ++ [key] := by
  unfold ensure; split <;> simp

theorem keys_combine (t : OrderedTable α) (key : String) (merge : α → α) (value : α) :
    (t.combine key merge value).keys = if key ∈ t.keys then t.keys else t.keys ++ [key] := by
  unfold combine; split <;> simp

theorem keys_erase (t : OrderedTable α) (key : String) :
    (t.erase key).keys = t.keys.filter (· != key) := by
  simp [keys, erase, List.filter_map, Function.comp_def]

theorem nodup (t : OrderedTable α) : t.keys.Nodup := t.nodup_keys

theorem entries_insert_of_mem {t : OrderedTable α} {key : String} (value : α)
    (h : key ∈ t.keys) :
    (t.insert key value).entries
      = t.entries.map fun e => (e.1, if e.1 = key then value else e.2) := by
  rw [insert, dif_pos h]
  rfl

theorem entries_insert_of_not_mem {t : OrderedTable α} {key : String} (value : α)
    (h : key ∉ t.keys) : (t.insert key value).entries = t.entries ++ [(key, value)] := by
  rw [insert, dif_neg h]
  rfl

/-! ### Values -/

@[simp] theorem get?_empty (key : String) : (∅ : OrderedTable α).get? key = none := rfl

theorem get?_isSome_iff {t : OrderedTable α} {key : String} :
    (t.get? key).isSome = true ↔ key ∈ t.keys := by
  rw [get?, keys, List.lookup_isSome_iff, List.mem_map]
  exact exists_congr fun e => and_congr_right fun _ => by rw [beq_iff_eq]; exact eq_comm

theorem get?_map (f : String → α → β) (t : OrderedTable α) (key : String) :
    (t.map f).get? key = (t.get? key).map (f key) := by
  change (t.entries.map fun e => (e.1, f e.1 e.2)).lookup key = (t.entries.lookup key).map (f key)
  generalize t.entries = es
  induction es with
  | nil => rfl
  | cons e es ih =>
    obtain ⟨k, v⟩ := e
    by_cases h : key = k
    · simp [h]
    · have hk : (key == k) = false := by simp [h]
      simp only [List.map_cons, List.lookup_cons, hk, ih]

theorem get?_modify (t : OrderedTable α) (key : String) (f : α → α) (k : String) :
    (t.modify key f).get? k = if k = key then (t.get? k).map f else t.get? k := by
  rw [modify, get?_map]
  by_cases h : k = key <;> cases t.get? k <;> simp [h]

theorem get?_eq_some_iff {t : OrderedTable α} {key : String} {value : α} :
    t.get? key = some value ↔ (key, value) ∈ t.entries := by
  have hn : (t.entries.map Prod.fst).Nodup := t.nodup_keys
  change t.entries.lookup key = some value ↔ _
  generalize t.entries = es at hn
  induction es with
  | nil => simp
  | cons e es ih =>
      obtain ⟨k, v⟩ := e
      rw [List.map_cons, List.nodup_cons] at hn
      by_cases hk : key = k
      · subst hk
        have hnot : (key, value) ∉ es := fun h => hn.1 (List.mem_map.2 ⟨_, h, rfl⟩)
        simp [hnot, eq_comm]
      · have hb : (key == k) = false := by simp [hk]
        simp [List.lookup_cons, hb, hk, ih hn.2]

theorem get?_eq_none_iff {t : OrderedTable α} {key : String} :
    t.get? key = none ↔ key ∉ t.keys := by
  rw [← get?_isSome_iff]
  cases t.get? key <;> simp

theorem mem_values_iff {t : OrderedTable α} {value : α} :
    value ∈ t.values ↔ ∃ key, t.get? key = some value := by
  simp only [values, List.mem_map, get?_eq_some_iff]
  constructor
  · rintro ⟨⟨k, v⟩, h, rfl⟩
    exact ⟨k, h⟩
  · rintro ⟨k, h⟩
    exact ⟨(k, value), h, rfl⟩

theorem get?_push (t : OrderedTable α) (key : String) (value : α) (h : key ∉ t.keys) (k : String) :
    (t.push key value h).get? k = if k = key then some value else t.get? k := by
  change (t.entries ++ [(key, value)]).lookup k = if k = key then some value else t.entries.lookup k
  rw [List.lookup_append]
  by_cases hk : k = key
  · have hnone : t.entries.lookup key = none := get?_eq_none_iff.2 h
    simp [hk, hnone]
  · have hb : (k == key) = false := by simp [hk]
    simp [List.lookup_cons, hb, hk]

theorem get?_insert (t : OrderedTable α) (key : String) (value : α) (k : String) :
    (t.insert key value).get? k = if k = key then some value else t.get? k := by
  unfold insert
  split
  · rename_i h
    rw [get?_modify]
    by_cases hk : k = key
    · obtain ⟨v, hv⟩ := Option.isSome_iff_exists.1 (get?_isSome_iff.2 h)
      simp [hk, hv]
    · simp [hk]
  · exact get?_push t key value _ k

theorem get?_ensure (t : OrderedTable α) (key : String) (value : α) (k : String) :
    (t.ensure key value).get? k
      = if k = key then some ((t.get? key).getD value) else t.get? k := by
  unfold ensure
  split
  · rename_i h
    obtain ⟨v, hv⟩ := Option.isSome_iff_exists.1 (get?_isSome_iff.2 h)
    by_cases hk : k = key <;> simp [hk, hv]
  · rename_i h
    simp [get?_push, get?_eq_none_iff.2 h]

theorem get?_combine (t : OrderedTable α) (key : String) (merge : α → α) (value : α)
    (k : String) :
    (t.combine key merge value).get? k
      = if k = key then some ((t.get? key).elim value merge) else t.get? k := by
  unfold combine
  split
  · rename_i h
    obtain ⟨v, hv⟩ := Option.isSome_iff_exists.1 (get?_isSome_iff.2 h)
    by_cases hk : k = key <;> simp [get?_modify, hk, hv]
  · rename_i h
    simp [get?_push, get?_eq_none_iff.2 h]

theorem get?_erase (t : OrderedTable α) (key k : String) :
    (t.erase key).get? k = if k = key then none else t.get? k := by
  apply Option.ext
  intro v
  rw [get?_eq_some_iff]
  by_cases hk : k = key
  · simp [erase, hk]
  · simp [erase, hk, get?_eq_some_iff]

theorem get?_rekey (t : OrderedTable α) {old new : String} (f : α → α) (h : new ∉ t.keys)
    (k : String) :
    (t.rekey old new f).get? k
      = if k = new then (t.get? old).map f else if k = old then none else t.get? k := by
  apply Option.ext
  intro v
  have hnew : ∀ w, (new, w) ∉ t.entries := fun w hw =>
    h (List.mem_map_of_mem (f := Prod.fst) hw)
  rw [get?_eq_some_iff]
  simp only [rekey, h, dite_false, List.mem_map, Prod.exists]
  constructor
  · rintro ⟨a, w, hw, he⟩
    by_cases ha : a = old
    · subst ha
      rw [if_pos rfl, Prod.mk.injEq] at he
      obtain ⟨rfl, rfl⟩ := he
      simp [get?_eq_some_iff.2 hw]
    · rw [if_neg ha, Prod.mk.injEq] at he
      obtain ⟨rfl, rfl⟩ := he
      have hak : a ≠ new := by
        rintro rfl
        exact hnew w hw
      simp [hak, ha, get?_eq_some_iff.2 hw]
  · intro hv
    by_cases hk : k = new
    · rw [if_pos hk, Option.map_eq_some_iff] at hv
      obtain ⟨w, hw, rfl⟩ := hv
      exact ⟨old, w, get?_eq_some_iff.1 hw, by simp [hk]⟩
    · rw [if_neg hk] at hv
      by_cases ho : k = old
      · simp [ho] at hv
      · rw [if_neg ho] at hv
        exact ⟨k, v, get?_eq_some_iff.1 hv, by simp [ho]⟩

end OrderedTable

end ClassInference
