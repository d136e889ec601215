import ClassInference.Proofs.CommonType
import ClassInference.Proofs.Fields.Merged
import Mathlib.Data.List.Forall2

/-!
# Graphs alike up to order

Two graphs are alike if they know the same classes with the same fields, whatever the orders in
which classes, fields and observations came and whatever the numbers of the nodes. The common type
of observations does not depend on their order, and so no operation on a field or on a content can
tell alike ones apart.
-/

namespace Option

variable {α β γ δ : Type*} {R : α → β → Prop} {x : Option α} {y : Option β}

theorem Rel.eq_or_exists (h : Rel R x y) :
    (x = Option.none ∧ y = Option.none) ∨
      ∃ a b, x = Option.some a ∧ y = Option.some b ∧ R a b := by
  cases h with
  | none => exact .inl ⟨rfl, rfl⟩
  | some hab => exact .inr ⟨_, _, rfl, rfl, hab⟩

theorem Rel.isSome_eq (h : Rel R x y) : x.isSome = y.isSome := by
  cases h <;> rfl

theorem Rel.map {S : γ → δ → Prop} {f : α → γ} {f' : β → δ} (h : Rel R x y)
    (hf : ∀ a b, R a b → S (f a) (f' b)) : Rel S (x.map f) (y.map f') := by
  cases h with
  | none => exact .none
  | some hab => exact .some (hf _ _ hab)

theorem Rel.refl {R : α → α → Prop} (hR : ∀ a, R a a) (x : Option α) : Rel R x x := by
  cases x with
  | none => exact .none
  | some a => exact .some (hR a)

theorem Rel.symm {R : α → α → Prop} {x y : Option α} (h : Rel R x y)
    (hR : ∀ a b, R a b → R b a) : Rel R y x := by
  cases h with
  | none => exact .none
  | some hab => exact .some (hR _ _ hab)

theorem Rel.trans {R : α → α → Prop} {x y z : Option α} (h : Rel R x y) (h' : Rel R y z)
    (hR : ∀ a b c, R a b → R b c → R a c) : Rel R x z := by
  cases h with
  | none => exact h'
  | some hab =>
      cases h' with
      | some hbc => exact .some (hR _ _ _ hab hbc)

theorem Rel.getD {a : α} {b : β} (h : Rel R x y) (hab : R a b) : R (x.getD a) (y.getD b) := by
  cases h with
  | none => exact hab
  | some h => exact h

end Option

namespace ClassInference

open Json (Value)

/-! ### Tables -/

namespace OrderedTable

universe u

variable {α : Type u} {R : α → α → Prop} {t t' : OrderedTable α}

/-- Under the same keys, in whatever order, stand related values. -/
def Alike (R : α → α → Prop) (t t' : OrderedTable α) : Prop :=
  ∀ key, Option.Rel R (t.get? key) (t'.get? key)

theorem Alike.refl (hR : ∀ a, R a a) (t : OrderedTable α) : t.Alike R t := fun _ => .refl hR _

theorem Alike.symm (h : t.Alike R t') (hR : ∀ a b, R a b → R b a) : t'.Alike R t := fun key =>
  (h key).symm hR

theorem Alike.trans {t'' : OrderedTable α} (h : t.Alike R t') (h' : t'.Alike R t'')
    (hR : ∀ a b c, R a b → R b c → R a c) : t.Alike R t'' := fun key =>
  (h key).trans (h' key) hR

theorem Alike.mem_keys_iff (h : t.Alike R t') {key : String} : key ∈ t.keys ↔ key ∈ t'.keys := by
  rw [← get?_isSome_iff, ← get?_isSome_iff, (h key).isSome_eq]

theorem Alike.map {F F' : String → α → α} (h : t.Alike R t')
    (hF : ∀ key a b, R a b → R (F key a) (F' key b)) : (t.map F).Alike R (t'.map F') := by
  intro key
  rw [get?_map, get?_map]
  exact (h key).map (hF key)

theorem Alike.modify {F F' : α → α} (h : t.Alike R t') (hF : ∀ a b, R a b → R (F a) (F' b))
    (key : String) : (t.modify key F).Alike R (t'.modify key F') := by
  apply h.map
  intro k a b hab
  split
  · exact hF a b hab
  · exact hab

theorem Alike.erase (h : t.Alike R t') (key : String) : (t.erase key).Alike R (t'.erase key) := by
  intro k
  rw [get?_erase, get?_erase]
  split
  · exact .none
  · exact h k

theorem values_eq_filterMap (t : OrderedTable α) : t.values = t.keys.filterMap t.get? := by
  rw [values, keys, List.filterMap_map]
  symm
  rw [← List.filterMap_eq_map]
  apply List.filterMap_congr
  rintro ⟨key, a⟩ he
  exact get?_eq_some_iff.2 he

/-- The values of an alike table are those of the other one, each replaced by a related one, in
another order. -/
theorem Alike.values (h : t.Alike R t') :
    ∃ vs, List.Forall₂ R t.values vs ∧ vs.Perm t'.values := by
  refine ⟨t.keys.filterMap t'.get?, ?_, ?_⟩
  · rw [values_eq_filterMap]
    generalize t.keys = ks
    induction ks with
    | nil => exact .nil
    | cons k ks ih =>
        rw [List.filterMap_cons, List.filterMap_cons]
        rcases (h k).eq_or_exists with ⟨ht, ht'⟩ | ⟨a, b, ht, ht', hab⟩
        · rw [ht, ht']
          exact ih
        · rw [ht, ht']
          exact .cons hab ih
  · rw [values_eq_filterMap]
    apply List.Perm.filterMap
    rw [List.perm_ext_iff_of_nodup t.nodup t'.nodup]
    exact fun _ => h.mem_keys_iff

end OrderedTable

/-! ### Fields -/

/-- The inferred type does not depend on the order of the observations. -/
theorem Observation.infer_perm {os ps : List Observation} (h : os.Perm ps)
    (current : Option Primitive) : infer os current = infer ps current :=
  infer_congr (fun _ => h.mem_iff) current

namespace Field

/-- A field that differs from `f` in the order of the observations. -/
inductive Alike (f : Field) : Field → Prop
  | reorder {os : List Observation} (h : f.observed.Perm os) : f.Alike { f with observed := os }

variable {f f' other other' : Field}

theorem Alike.refl (f : Field) : f.Alike f := .reorder (.refl _)

theorem Alike.symm (h : f.Alike f') : f'.Alike f := by
  cases h with
  | @reorder os hos =>
      have h : Alike { f with observed := os } { f with observed := f.observed } :=
        .reorder hos.symm
      exact h

theorem Alike.trans {f'' : Field} (h : f.Alike f') (h' : f'.Alike f'') : f.Alike f'' := by
  cases h with
  | reorder hos =>
      cases h' with
      | reorder hps => exact .reorder (hos.trans hps)

theorem Alike.wireName (h : f.Alike f') : f'.wireName = f.wireName := by
  cases h
  rfl

theorem Alike.typeRef (h : f.Alike f') : f'.typeRef = f.typeRef := by
  cases h with
  | @reorder os hos =>
      have hinfer : Observation.infer os none = Observation.infer f.observed none :=
        (Observation.infer_perm hos none).symm
      unfold Field.typeRef inferred
      rw [hinfer]

theorem Alike.observe (h : f.Alike f') (v : Value) (nested : String) :
    (f.observe v nested).Alike (f'.observe v nested) := by
  cases h with
  | reorder hos => exact .reorder (hos.append_right _)

theorem Alike.merge (h : f.Alike f') (ho : other.Alike other') :
    (f.merge other).Alike (f'.merge other') := by
  cases h with
  | reorder hos =>
      cases ho with
      | reorder hps => exact .reorder (hos.append hps)

theorem Alike.setOverride (h : f.Alike f') (name : String) :
    (f.setOverride name).Alike (f'.setOverride name) := by
  cases h with
  | reorder hos => exact .reorder hos

theorem Alike.retype (h : f.Alike f') (source target : TypeRef) (asArray : Bool) :
    (f.retype source target asArray).Alike (f'.retype source target asArray) := by
  unfold Field.retype retype?
  rw [h.typeRef]
  split
  · cases h with
    | reorder hos => exact .reorder hos
  · exact h

/-- Values under one key are noted in either order. -/
theorem alike_observe_comm (f : Field) (v w : Value) (nested : String) :
    ((f.observe v nested).observe w nested).Alike ((f.observe w nested).observe v nested) := by
  have hnested : ((f.observe v nested).observe w nested).nested
      = ((f.observe w nested).observe v nested).nested := by
    cases hf : f.nested <;> cases hv : Observation.hasObject v <;>
      cases hw : Observation.hasObject w <;> simp [observe, hf, hv, hw]
  have hswap : ((f.observe w nested).observe v nested)
      = { (f.observe v nested).observe w nested with
          observed := ((f.observe w nested).observe v nested).observed } := by
    rw [Field.mk.injEq]
    exact ⟨rfl, rfl, rfl, hnested.symm, rfl, Bool.or_right_comm .., rfl⟩
  rw [hswap]
  apply Alike.reorder
  simp only [observe, List.append_assoc]
  exact (List.perm_append_comm).append_left _

end Field

/-! ### Contents -/

/-- Fields under the same wire names that are alike, or the same constants. -/
inductive Content.Alike : Content → Content → Prop
  | record {t t' : OrderedTable Field} (h : t.Alike Field.Alike t') :
      Alike (.record t) (.record t')
  | enumeration (constants : List EnumConstant) :
      Alike (.enumeration constants) (.enumeration constants)

namespace Content

variable {c c' other other' : Content} {t t' u u' : OrderedTable Field}

theorem Alike.refl (c : Content) : c.Alike c := by
  cases c with
  | record t => exact .record (.refl Field.Alike.refl t)
  | enumeration constants => exact .enumeration constants

theorem Alike.symm (h : c.Alike c') : c'.Alike c := by
  cases h with
  | record ht => exact .record (ht.symm fun _ _ => Field.Alike.symm)
  | enumeration constants => exact .enumeration constants

theorem Alike.trans {c'' : Content} (h : c.Alike c') (h' : c'.Alike c'') : c.Alike c'' := by
  cases h with
  | record ht =>
      cases h' with
      | record ht' => exact .record (ht.trans ht' fun _ _ _ => Field.Alike.trans)
  | enumeration constants => exact h'

theorem Alike.fields (h : c.Alike c') : c.fields.Alike Field.Alike c'.fields := by
  cases h with
  | record ht => exact ht
  | enumeration constants => exact .refl Field.Alike.refl _

theorem Alike.constants (h : c.Alike c') : c'.constants = c.constants := by
  cases h <;> rfl

theorem Alike.isEnumeration (h : c.Alike c') : c'.isEnumeration = c.isEnumeration := by
  cases h <;> rfl

theorem Alike.mapFields {F F' : OrderedTable Field → OrderedTable Field} (h : c.Alike c')
    (hF : ∀ t t', t.Alike Field.Alike t' → (F t).Alike Field.Alike (F' t')) :
    (c.mapFields F).Alike (c'.mapFields F') := by
  cases h with
  | record ht => exact .record (hF _ _ ht)
  | enumeration constants => exact .enumeration constants

/-- Alike fields stand under their wire names in both tables or in none. -/
theorem keyed_of_alike (ht : t.Keyed) (h : t.Alike Field.Alike t') : t'.Keyed := by
  intro key f' hf'
  rcases (h key).eq_or_exists with ⟨-, hnone⟩ | ⟨f, b, hf, hb, hfb⟩
  · rw [hnone] at hf'
    simp at hf'
  · rw [hb, Option.some.injEq] at hf'
    rw [← hf', hfb.wireName]
    exact ht hf

theorem alike_note (h : t.Alike Field.Alike t') (key : String) (v : Value) (nested : String) :
    (note t key v nested).Alike Field.Alike (note t' key v nested) := by
  intro k
  rw [get?_note, get?_note]
  split
  · rcases (h key).eq_or_exists with ⟨hf, hf'⟩ | ⟨f, f', hf, hf', hff⟩
    · rw [hf, hf']
      exact .some (.refl _)
    · rw [hf, hf']
      exact .some (hff.observe v nested)
  · exact h k

/-- Values are noted in either order, under one key or under two. -/
theorem alike_note_comm (t : OrderedTable Field) (key key' : String) (v w : Value)
    (nested : String → String) :
    (note (note t key v (nested key)) key' w (nested key')).Alike Field.Alike
      (note (note t key' w (nested key')) key v (nested key)) := by
  intro k
  simp only [get?_note]
  by_cases hk : k = key
  · subst hk
    by_cases hkey : k = key'
    · subst hkey
      simpa using Field.alike_observe_comm _ v w (nested k)
    · simpa [hkey, Ne.symm hkey] using Field.Alike.refl _
  · by_cases hk' : k = key'
    · subst hk'
      simpa [hk, Ne.symm hk] using Field.Alike.refl _
    · simpa [hk, hk'] using Option.Rel.refl Field.Alike.refl _

theorem alike_mergeFields (hu : u.Keyed) (ht : t.Alike Field.Alike t')
    (h : u.Alike Field.Alike u') :
    (mergeFields t u).Alike Field.Alike (mergeFields t' u') := by
  intro k
  rw [get?_mergeFields hu, get?_mergeFields (keyed_of_alike hu h)]
  rcases (h k).eq_or_exists with ⟨hf, hf'⟩ | ⟨f, f', hf, hf', hff⟩
  · rw [hf, hf']
    exact ht k
  · rw [hf, hf']
    rcases (ht k).eq_or_exists with ⟨hown, hown'⟩ | ⟨own, own', hown, hown', hoo⟩
    · rw [hown, hown']
      exact .some hff
    · rw [hown, hown']
      exact .some (hoo.merge hff)

theorem Alike.merge (hkeyed : other.fields.Keyed) (h : c.Alike c') (ho : other.Alike other') :
    (c.merge other).Alike (c'.merge other') := by
  cases h with
  | record ht =>
      cases ho with
      | record hu => exact .record (alike_mergeFields hkeyed ht hu)
      | enumeration constants => exact .record ht
  | enumeration own =>
      cases ho with
      | record hu => exact .enumeration own
      | enumeration constants => exact .enumeration _

end Content

/-! ### Nodes -/

/-- A node that differs from `c` in its number and the order of what it holds. -/
inductive ClassNode.Alike (c : ClassNode) : ClassNode → Prop
  | renumber (id : Nat) {content : Content} (h : c.content.Alike content) :
      c.Alike { c with id := id, content := content }

namespace ClassNode

variable {c c' other other' : ClassNode}

theorem Alike.refl (c : ClassNode) : c.Alike c := .renumber c.id (.refl c.content)

theorem Alike.symm (h : c.Alike c') : c'.Alike c := by
  cases h with
  | @renumber id content hc =>
      have h : Alike { c with id := id, content := content }
          { c with id := c.id, content := c.content } := .renumber c.id hc.symm
      exact h

theorem Alike.trans {c'' : ClassNode} (h : c.Alike c') (h' : c'.Alike c'') : c.Alike c'' := by
  cases h with
  | renumber id hc =>
      cases h' with
      | renumber id' hc' => exact .renumber id' (hc.trans hc')

theorem alike_new (id id' : Nat) (package name : String) (generate : Bool) :
    (new id package name generate).Alike (new id' package name generate) :=
  .renumber id' (.refl _)

theorem Alike.content (h : c.Alike c') : c.content.Alike c'.content := by
  cases h with
  | renumber id hc => exact hc

theorem Alike.name (h : c.Alike c') : c'.name = c.name := by
  cases h
  rfl

theorem Alike.package (h : c.Alike c') : c'.package = c.package := by
  cases h
  rfl

theorem Alike.base (h : c.Alike c') : c'.base = c.base := by
  cases h
  rfl

theorem Alike.generate (h : c.Alike c') : c'.generate = c.generate := by
  cases h
  rfl

theorem Alike.withBase (h : c.Alike c') (base : Option String) :
    Alike { c with base := base } { c' with base := base } := by
  cases h with
  | renumber id hc => exact .renumber id hc

theorem Alike.withName (h : c.Alike c') (name : String) :
    Alike { c with name := name } { c' with name := name } := by
  cases h with
  | renumber id hc => exact .renumber id hc

theorem Alike.mapContent {F F' : Content → Content} (h : c.Alike c')
    (hF : ∀ d d' : Content, d.Alike d' → (F d).Alike (F' d')) :
    (c.mapContent F).Alike (c'.mapContent F') := by
  cases h with
  | renumber id hc => exact .renumber id (hF _ _ hc)

theorem Alike.observe (h : c.Alike c') (key : String) (v : Value) (nested : String) :
    (c.observe key v nested).Alike (c'.observe key v nested) :=
  h.mapContent fun _ _ hd => hd.mapFields fun _ _ ht => Content.alike_note ht key v nested

theorem Alike.mergeContent (hkeyed : other.content.fields.Keyed) (h : c.Alike c')
    (ho : other.Alike other') : (c.mergeContent other).Alike (c'.mergeContent other') :=
  h.mapContent fun _ _ hd => hd.merge hkeyed ho.content

theorem Alike.modifyField (h : c.Alike c') (wireName : String) {F : Field → Field}
    (hF : ∀ f f', f.Alike f' → (F f).Alike (F f')) :
    (c.modifyField wireName F).Alike (c'.modifyField wireName F) :=
  h.mapContent fun _ _ hd => hd.mapFields fun _ _ ht => ht.modify hF wireName

theorem Alike.removeField (h : c.Alike c') (wireName : String) :
    (c.removeField wireName).Alike (c'.removeField wireName) :=
  h.mapContent fun _ _ hd => hd.mapFields fun _ _ ht => ht.erase wireName

theorem Alike.retype (h : c.Alike c') (source target : TypeRef) (asArray : Bool) :
    (c.retype source target asArray).Alike (c'.retype source target asArray) :=
  h.mapContent fun _ _ hd => hd.mapFields fun _ _ ht =>
    ht.map fun _ _ _ hf => hf.retype source target asArray

theorem Alike.declareEnum (h : c.Alike c') (constants : List EnumConstant) :
    (c.declareEnum constants).Alike (c'.declareEnum constants) := by
  have hconstants : c'.constants = c.constants := h.content.constants
  unfold ClassNode.declareEnum
  rw [hconstants]
  cases h with
  | renumber id hc => exact .renumber id (.refl _)

end ClassNode

/-! ### Graphs -/

namespace ClassGraph

variable {g g' : ClassGraph}

/-- The same built-ins, and alike nodes under the same names. -/
structure Alike (g g' : ClassGraph) : Prop where
  builtins : g'.builtins = g.builtins
  classes : g.classes.Alike ClassNode.Alike g'.classes

theorem Alike.refl (g : ClassGraph) : g.Alike g := ⟨rfl, .refl ClassNode.Alike.refl _⟩

theorem Alike.symm (h : g.Alike g') : g'.Alike g :=
  ⟨h.builtins.symm, h.classes.symm fun _ _ => ClassNode.Alike.symm⟩

theorem Alike.trans {g'' : ClassGraph} (h : g.Alike g') (h' : g'.Alike g'') : g.Alike g'' :=
  ⟨h'.builtins.trans h.builtins, h.classes.trans h'.classes fun _ _ _ => ClassNode.Alike.trans⟩

instance : Trans Alike Alike Alike := ⟨Alike.trans⟩

theorem Alike.find? (h : g.Alike g') (name : String) :
    Option.Rel ClassNode.Alike (g.find? name) (g'.find? name) :=
  h.classes name

theorem alike_of_find? (hbuiltins : g'.builtins = g.builtins)
    (hnodes : ∀ n, Option.Rel ClassNode.Alike (g.find? n) (g'.find? n)) : g.Alike g' :=
  ⟨hbuiltins, hnodes⟩

theorem alike_of_find?_eq (hbuiltins : g'.builtins = g.builtins)
    (hnodes : ∀ n, g.find? n = g'.find? n) : g.Alike g' := by
  apply alike_of_find? hbuiltins
  intro n
  rw [hnodes n]
  exact .refl ClassNode.Alike.refl _

theorem Alike.find?_eq_none (h : g.Alike g') {name : String} (hf : g.find? name = none) :
    g'.find? name = none := by
  rw [← Option.isNone_iff_eq_none, ← Option.not_isSome, ← (h.find? name).isSome_eq, hf]
  rfl

theorem Alike.exists_find? (h : g.Alike g') {name : String} {c : ClassNode}
    (hf : g.find? name = some c) : ∃ c', g'.find? name = some c' ∧ c.Alike c' := by
  rcases (h.find? name).eq_or_exists with ⟨hnone, -⟩ | ⟨d, c', hd, hc', hdc⟩
  · simp [hf] at hnone
  · obtain rfl : d = c := Option.some.inj (hd.symm.trans hf)
    exact ⟨c', hc', hdc⟩

theorem Alike.mem_names_iff (h : g.Alike g') {name : String} : name ∈ g.names ↔ name ∈ g'.names :=
  h.classes.mem_keys_iff

theorem FieldsKeyed.of_alike (hg : g.FieldsKeyed) (h : g.Alike g') : g'.FieldsKeyed := by
  intro name c' hc'
  obtain ⟨c, hc, hcc⟩ := h.symm.exists_find? hc'
  exact Content.keyed_of_alike (hg hc) hcc.symm.content.fields

theorem Alike.contains (h : g.Alike g') (name : String) :
    g'.contains name = g.contains name := by
  rw [Bool.eq_iff_iff, contains_iff, contains_iff]
  exact h.classes.mem_keys_iff.symm

theorem Alike.isReserved (h : g.Alike g') (package : String) :
    g'.isReserved package = g.isReserved package := by
  rw [ClassGraph.isReserved, h.builtins, ClassGraph.isReserved]

theorem Alike.baseName? (h : g.Alike g') (name : String) :
    g'.baseName? name = g.baseName? name := by
  unfold ClassGraph.baseName?
  rcases (h.find? name).eq_or_exists with ⟨hc, hc'⟩ | ⟨c, c', hc, hc', hcc⟩
  · rw [hc, hc']
  · rw [hc, hc', Option.bind_some, Option.bind_some, hcc.base]

theorem Alike.ensure (h : g.Alike g') (package name : String) :
    (g.ensure package name).Alike (g'.ensure package name) := by
  apply alike_of_find?
  · rw [builtins_ensure, builtins_ensure, h.builtins]
  · intro n
    rw [find?_ensure, find?_ensure, h.isReserved]
    split
    · rcases (h.find? name).eq_or_exists with ⟨hc, hc'⟩ | ⟨c, c', hc, hc', hcc⟩
      · rw [hc, hc']
        exact .some (ClassNode.alike_new ..)
      · rw [hc, hc']
        exact .some hcc
    · exact h.find? n

theorem Alike.modify {F F' : ClassNode → ClassNode} (h : g.Alike g')
    (hF : ∀ c c' : ClassNode, c.Alike c' → (F c).Alike (F' c')) (name : String) :
    (g.modify name F).Alike (g'.modify name F') :=
  ⟨h.builtins, h.classes.modify hF name⟩

theorem Alike.mapNodes {F : ClassNode → ClassNode} (h : g.Alike g')
    (hF : ∀ c c' : ClassNode, c.Alike c' → (F c).Alike (F c')) :
    (g.mapNodes F).Alike (g'.mapNodes F) :=
  ⟨h.builtins, h.classes.map fun _ => hF⟩

theorem Alike.erase (h : g.Alike g') (name : String) : (g.erase name).Alike (g'.erase name) :=
  ⟨h.builtins, h.classes.erase name⟩

end ClassGraph

end ClassInference
