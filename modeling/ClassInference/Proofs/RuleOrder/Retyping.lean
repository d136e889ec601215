import ClassInference.Proofs.RuleOrder.MovesApart

/-!
# Types replaced at once

Rules that replace types one after the other do the same as one replacement of all these types, as
long as no rule puts in a type that another one takes out. The replacement can wait until the
classes have moved: classes that come together have to agree on the types of the fields they share,
or no rule may take out a primitive, which a merged field may show where its parts show another.
-/

namespace ClassInference

/-! ### Fields -/

namespace Field

variable {ρ : TypeRef → Option (TypeRef × Bool)} {key : String} {f f' : Field}

/-- Replace the type of the field at once: by what stands for it in `ρ`, if anything does. -/
def retypeBy (ρ : TypeRef → Option (TypeRef × Bool)) (f : Field) : Field :=
  match ρ f.typeRef with
  | some t => { f with mapped := some t.1, isArray := f.isArray || t.2 }
  | none => f

theorem retypeBy_of_none (h : ρ f.typeRef = none) : f.retypeBy ρ = f := by
  rw [retypeBy, h]

theorem retypeBy_of_some {t : TypeRef × Bool} (h : ρ f.typeRef = some t) :
    f.retypeBy ρ = { f with mapped := some t.1, isArray := f.isArray || t.2 } := by
  rw [retypeBy, h]

theorem wireName_retypeBy (ρ : TypeRef → Option (TypeRef × Bool)) (f : Field) :
    (f.retypeBy ρ).wireName = f.wireName := by
  unfold retypeBy
  split <;> rfl

theorem Alike.retypeBy (h : f.Alike f') (ρ : TypeRef → Option (TypeRef × Bool)) :
    (f.retypeBy ρ).Alike (f'.retypeBy ρ) := by
  unfold Field.retypeBy
  rw [h.typeRef]
  split
  · cases h with
    | reorder hos => exact .reorder hos
  · exact h

theorem FreshAt.typeRef_of_nested (hf : f.FreshAt key) {n : String} (h : f.nested = some n) :
    f.typeRef = .named n := by
  rw [typeRef, hf.mapped, h]

theorem FreshAt.typeRef_of_flat (hf : f.FreshAt key) (h : f.nested = none) :
    f.typeRef = .primitive (f.inferred.getD .string) := by
  rw [typeRef, hf.mapped, h]

/-- Fields of one inferred type are of that type when they are merged. -/
theorem inferred_merge (h : f.inferred.getD .string = f'.inferred.getD .string) :
    (f.merge f').inferred.getD .string = f.inferred.getD .string := by
  rw [inferred, inferred] at h
  rw [inferred, inferred, Field.merge]
  cases hp : Observation.infer f.observed none with
  | none =>
      obtain ⟨hnil, -⟩ := Observation.infer_eq_none_iff.1 hp
      rw [hp] at h
      rw [hnil, List.nil_append, h]
  | some p =>
      cases hq : Observation.infer f'.observed none with
      | none =>
          obtain ⟨hnil, -⟩ := Observation.infer_eq_none_iff.1 hq
          rw [hnil, List.append_nil, hp]
      | some q =>
          rw [hp, hq, Option.getD_some, Option.getD_some] at h
          rw [Observation.infer_append_of_eq_some hp (h ▸ hq)]

/-- Merged fields of one type are of that type. -/
theorem FreshAt.typeRef_merge (hf : f.FreshAt key) (hf' : f'.FreshAt key)
    (h : f.typeRef = f'.typeRef) : (f.merge f').typeRef = f.typeRef := by
  have hmerged := hf.merge hf'
  rcases hf.nested with hn | hn
  · rcases hf'.nested with hn' | hn'
    · have hnone : (f.merge f').nested = none := by simp [Field.merge, hn, hn']
      rw [hf.typeRef_of_flat hn, hf'.typeRef_of_flat hn', TypeRef.primitive.injEq] at h
      rw [hmerged.typeRef_of_flat hnone, hf.typeRef_of_flat hn, inferred_merge h]
    · rw [hf.typeRef_of_flat hn, hf'.typeRef_of_nested hn'] at h
      contradiction
  · have hsome : (f.merge f').nested = some (Naming.typeName key) := by simp [Field.merge, hn]
    rw [hmerged.typeRef_of_nested hsome, hf.typeRef_of_nested hn]

theorem FreshAt.retypeBy_flat (hf : f.FreshAt key) (hn : f.nested = none)
    (h : ∀ p, ρ (.primitive p) = none) : f.retypeBy ρ = f :=
  retypeBy_of_none (hf.typeRef_of_flat hn ▸ h _)

/-- Fields of one key and one type are replaced before or after they are merged. -/
theorem FreshAt.retypeBy_merge_of_typeRef_eq (hf : f.FreshAt key) (hf' : f'.FreshAt key)
    (h : f.typeRef = f'.typeRef) :
    (f.retypeBy ρ).merge (f'.retypeBy ρ) = (f.merge f').retypeBy ρ := by
  have hsame := hf.typeRef_merge hf' h
  cases ht : ρ f.typeRef with
  | none => rw [retypeBy_of_none ht, retypeBy_of_none (h ▸ ht), retypeBy_of_none (hsame ▸ ht)]
  | some t =>
      have hlist : ((f.isArray || t.2) || (f'.isArray || t.2))
          = ((f.isArray || f'.isArray) || t.2) := by
        cases f.isArray <;> cases f'.isArray <;> cases t.2 <;> rfl
      rw [retypeBy_of_some ht, retypeBy_of_some (h ▸ ht), retypeBy_of_some (hsame ▸ ht),
        Field.mk.injEq]
      exact ⟨rfl, rfl, rfl, rfl, rfl, hlist, rfl⟩

/-- Fields of one key are replaced before or after they are merged, if no primitive is taken out or
they are of one type. -/
theorem FreshAt.retypeBy_merge (hf : f.FreshAt key) (hf' : f'.FreshAt key)
    (h : (∀ p, ρ (.primitive p) = none) ∨ f.typeRef = f'.typeRef) :
    (f.retypeBy ρ).merge (f'.retypeBy ρ) = (f.merge f').retypeBy ρ := by
  rcases h with hprimitive | htype
  swap
  · exact hf.retypeBy_merge_of_typeRef_eq hf' htype
  have hmerged := hf.merge hf'
  rcases hf.nested with hn | hn
  · rw [hf.retypeBy_flat hn hprimitive]
    rcases hf'.nested with hn' | hn'
    · have hnone : (f.merge f').nested = none := by simp [Field.merge, hn, hn']
      rw [hf'.retypeBy_flat hn' hprimitive, hmerged.retypeBy_flat hnone hprimitive]
    · -- the reference is that of the second field
      have hsome : (f.merge f').nested = some (Naming.typeName key) := by
        simp [Field.merge, hn, hn']
      have hsame : (f.merge f').typeRef = f'.typeRef := by
        rw [hmerged.typeRef_of_nested hsome, hf'.typeRef_of_nested hn']
      cases ht : ρ f'.typeRef with
      | none => rw [retypeBy_of_none ht, retypeBy_of_none (hsame ▸ ht)]
      | some t =>
          rw [retypeBy_of_some ht, retypeBy_of_some (hsame ▸ ht), Field.mk.injEq]
          refine ⟨rfl, rfl, rfl, rfl, ?_, (Bool.or_assoc ..).symm, rfl⟩
          simp [Field.merge, hf.mapped]
  · rcases hf'.nested with hn' | hn'
    · -- the reference is that of the first field
      have hsome : (f.merge f').nested = some (Naming.typeName key) := by simp [Field.merge, hn]
      have hsame : (f.merge f').typeRef = f.typeRef := by
        rw [hmerged.typeRef_of_nested hsome, hf.typeRef_of_nested hn]
      rw [hf'.retypeBy_flat hn' hprimitive]
      cases ht : ρ f.typeRef with
      | none => rw [retypeBy_of_none ht, retypeBy_of_none (hsame ▸ ht)]
      | some t =>
          rw [retypeBy_of_some ht, retypeBy_of_some (hsame ▸ ht), Field.mk.injEq]
          exact ⟨rfl, rfl, rfl, rfl, rfl, Bool.or_right_comm .., rfl⟩
    · apply hf.retypeBy_merge_of_typeRef_eq hf'
      rw [hf.typeRef_of_nested hn, hf'.typeRef_of_nested hn']

end Field

/-! ### Rules -/

/-- What stands for a type by the first rule that takes it out. -/
def retyping (resolve : String → TypeRef) (rules : List (String × TypeSpec)) (t : TypeRef) :
    Option (TypeRef × Bool) :=
  (rules.find? fun e => resolve e.1 = t).map fun e => (resolve e.2.name, e.2.isArray)

section Rules

variable {resolve : String → TypeRef} {rules rules' : List (String × TypeSpec)}
  {e : String × TypeSpec}

theorem retyping_perm (h : rules.Perm rules')
    (horigins : ∀ e ∈ rules, ∀ e' ∈ rules, resolve e.1 = resolve e'.1 →
      resolve e.2.name = resolve e'.2.name ∧ e.2.isArray = e'.2.isArray) :
    retyping resolve rules = retyping resolve rules' := by
  have hfound : ∀ {rules : List (String × TypeSpec)} {t e},
      rules.find? (fun e => resolve e.1 = t) = some e → e ∈ rules ∧ resolve e.1 = t :=
    fun he => ⟨List.mem_of_find?_eq_some he, by simpa using List.find?_some he⟩
  funext t
  rw [retyping, retyping]
  cases he : rules.find? (fun e => resolve e.1 = t) with
  | none =>
      have hnone : rules'.find? (fun e => resolve e.1 = t) = none := by
        rw [List.find?_eq_none] at he ⊢
        exact fun e hmem => he e (h.mem_iff.2 hmem)
      rw [hnone]
  | some e =>
      obtain ⟨hmem, ht⟩ := hfound he
      cases he' : rules'.find? (fun e => resolve e.1 = t) with
      | none =>
          rw [List.find?_eq_none] at he'
          exact absurd ht (by simpa using he' e (h.mem_iff.1 hmem))
      | some e' =>
          obtain ⟨hmem', ht'⟩ := hfound he'
          obtain ⟨hname, hlist⟩ := horigins e hmem e' (h.mem_iff.2 hmem') (ht.trans ht'.symm)
          rw [Option.map_some, Option.map_some, hname, hlist]

/-- One more rule after a replacement of types is one more type replaced, if the rule does not take
out what the others have put in. -/
theorem Field.retype_retypeBy (htargets : ∀ e' ∈ rules, resolve e'.2.name ≠ resolve e.1)
    (f : Field) :
    (f.retypeBy (retyping resolve rules)).retype (resolve e.1) (resolve e.2.name) e.2.isArray
      = f.retypeBy (retyping resolve (rules ++ [e])) := by
  cases he : rules.find? (fun e => resolve e.1 = f.typeRef) with
  | some e' =>
      have hmem := List.mem_of_find?_eq_some he
      have hfirst : retyping resolve rules f.typeRef = some (resolve e'.2.name, e'.2.isArray) := by
        rw [retyping, he, Option.map_some]
      have hlater : retyping resolve (rules ++ [e]) f.typeRef
          = some (resolve e'.2.name, e'.2.isArray) := by
        rw [retyping, List.find?_append, he]
        rfl
      rw [retypeBy_of_some hfirst, retypeBy_of_some hlater, retype, retype?, if_neg]
      · rfl
      · exact htargets e' hmem
  | none =>
      have hfirst : retyping resolve rules f.typeRef = none := by
        rw [retyping, he, Option.map_none]
      rw [retypeBy_of_none hfirst, retype, retype?]
      by_cases ht : f.typeRef = resolve e.1
      · have hlater : retyping resolve (rules ++ [e]) f.typeRef
            = some (resolve e.2.name, e.2.isArray) := by
          rw [retyping, List.find?_append, he]
          simp [ht]
        rw [if_pos ht, retypeBy_of_some hlater]
        rfl
      · have hlater : retyping resolve (rules ++ [e]) f.typeRef = none := by
          simp [retyping, List.find?_append, he, Ne.symm ht]
        rw [if_neg ht, retypeBy_of_none hlater]
        rfl

end Rules

/-! ### Contents and nodes -/

section Nodes

variable {ρ : TypeRef → Option (TypeRef × Bool)} {c d : ClassNode} {t u : OrderedTable Field}
  {old new : String}

/-- The fields of one key agree on their type, or no primitive is taken out. -/
def OrderedTable.AgreesBy (ρ : TypeRef → Option (TypeRef × Bool)) (t u : OrderedTable Field) :
    Prop :=
  ∀ key f f', t.get? key = some f → u.get? key = some f' →
    (∀ p, ρ (.primitive p) = none) ∨ f.typeRef = f'.typeRef

theorem OrderedTable.Keyed.retypeBy (hu : u.Keyed) (ρ : TypeRef → Option (TypeRef × Bool)) :
    (u.map fun _ f => f.retypeBy ρ).Keyed :=
  hu.map fun _ f => f.wireName_retypeBy ρ

theorem Content.mergeFields_retypeBy (ht : t.FreshFields) (hu : u.FreshFields)
    (h : t.AgreesBy ρ u) :
    mergeFields (t.map fun _ f => f.retypeBy ρ) (u.map fun _ f => f.retypeBy ρ)
      = (mergeFields t u).map fun _ f => f.retypeBy ρ := by
  have hkeyed := keyed_of_freshFields hu
  apply OrderedTable.ext_get?
  · simp only [keys_mergeFields (hkeyed.retypeBy ρ), keys_mergeFields hkeyed,
      OrderedTable.keys_map]
  · intro k
    rw [get?_mergeFields (hkeyed.retypeBy ρ), OrderedTable.get?_map, OrderedTable.get?_map,
      OrderedTable.get?_map, get?_mergeFields hkeyed]
    cases hf' : u.get? k with
    | none => rfl
    | some f' =>
        cases hf : t.get? k with
        | none => rfl
        | some f => exact congrArg some ((ht hf).retypeBy_merge (hu hf') (h k f f' hf hf'))

/-- Replace the types of all fields at once. -/
def ClassNode.retypeBy (ρ : TypeRef → Option (TypeRef × Bool)) (c : ClassNode) : ClassNode :=
  c.mapContent (·.mapFields (·.map fun _ f => f.retypeBy ρ))

namespace ClassNode

theorem Alike.retypeBy (h : c.Alike d) (ρ : TypeRef → Option (TypeRef × Bool)) :
    (c.retypeBy ρ).Alike (d.retypeBy ρ) :=
  h.mapContent fun _ _ hd => hd.mapFields fun _ _ ht => ht.map fun _ _ _ hf => hf.retypeBy ρ

/-- One more rule after a replacement of types, field by field. -/
theorem retype_retypeBy {resolve : String → TypeRef} {rules : List (String × TypeSpec)}
    {e : String × TypeSpec} (htargets : ∀ e' ∈ rules, resolve e'.2.name ≠ resolve e.1)
    (c : ClassNode) :
    (c.retypeBy (retyping resolve rules)).retype (resolve e.1) (resolve e.2.name) e.2.isArray
      = c.retypeBy (retyping resolve (rules ++ [e])) := by
  have hfields : ∀ fields : OrderedTable Field,
      ((fields.map fun _ f => f.retypeBy (retyping resolve rules)).map fun _ f =>
          f.retype (resolve e.1) (resolve e.2.name) e.2.isArray)
        = fields.map fun _ f => f.retypeBy (retyping resolve (rules ++ [e])) := by
    intro fields
    apply OrderedTable.ext_get?
    · simp only [OrderedTable.keys_map]
    · intro k
      simp only [OrderedTable.get?_map, Option.map_map, Function.comp_def,
        Field.retype_retypeBy htargets]
  obtain ⟨id, package, name, content, base, generate⟩ := c
  cases content with
  | enumeration constants => rfl
  | record fields => simp only [retype, retypeBy, mapContent, Content.mapFields, hfields]

theorem redirect_retypeBy (c : ClassNode) :
    (c.retypeBy ρ).redirect old new = (c.redirect old new).retypeBy ρ := by
  by_cases h : c.base = some old
  · rw [redirect, if_pos (show (c.retypeBy ρ).base = some old from h), redirect, if_pos h]
    rfl
  · rw [redirect_of_base_ne h, redirect_of_base_ne]
    exact h

theorem Fresh.mergeContent_retypeBy (hc : c.Fresh) (hd : d.Fresh)
    (h : c.content.fields.AgreesBy ρ d.content.fields) :
    (c.retypeBy ρ).mergeContent (d.retypeBy ρ) = (c.mergeContent d).retypeBy ρ := by
  have hcontent : (c.retypeBy ρ).content.merge (d.retypeBy ρ).content
      = ((c.mergeContent d).retypeBy ρ).content := by
    change (c.content.mapFields _).merge (d.content.mapFields _)
      = (c.content.merge d.content).mapFields _
    rw [hc.record, hd.record]
    exact congrArg Content.record (Content.mergeFields_retypeBy hc.2 hd.2 h)
  exact congrArg (fun content => { c with content := content }) hcontent

end ClassNode

end Nodes

/-! ### Graphs -/

namespace ClassGraph

variable {ρ : TypeRef → Option (TypeRef × Bool)} {g g' : ClassGraph} {S : List String}
  {old new : String} {origin : ClassNode}

/-- Replace the types of all fields of all classes at once. -/
def retypeBy (ρ : TypeRef → Option (TypeRef × Bool)) (g : ClassGraph) : ClassGraph :=
  g.mapNodes (·.retypeBy ρ)

theorem mapNodes_mapNodes (g : ClassGraph) (f f' : ClassNode → ClassNode) :
    (g.mapNodes f).mapNodes f' = g.mapNodes (f' ∘ f) := by
  refine ext_find? rfl rfl rfl rfl ?_ ?_
  · simp only [names_mapNodes]
  · intro n
    rw [find?_mapNodes, find?_mapNodes, find?_mapNodes, Option.map_map]

theorem find?_retypeBy (ρ : TypeRef → Option (TypeRef × Bool)) (g : ClassGraph) (n : String) :
    (g.retypeBy ρ).find? n = (g.find? n).map (·.retypeBy ρ) :=
  find?_mapNodes _ _ _

theorem names_retypeBy (ρ : TypeRef → Option (TypeRef × Bool)) (g : ClassGraph) :
    (g.retypeBy ρ).names = g.names :=
  names_mapNodes _ _

theorem baseName?_retypeBy (ρ : TypeRef → Option (TypeRef × Bool)) (g : ClassGraph) :
    (g.retypeBy ρ).baseName? = g.baseName? := by
  funext n
  rw [baseName?, find?_retypeBy, baseName?]
  cases g.find? n <;> rfl

theorem isBuiltin_retypeBy (ρ : TypeRef → Option (TypeRef × Bool)) (g : ClassGraph) (n : String) :
    (g.retypeBy ρ).isBuiltin n = g.isBuiltin n :=
  isBuiltin_congr rfl (congrFun (identity?_mapNodes (fun _ => by rfl) g) n)

theorem FieldsKeyed.retypeBy (hg : g.FieldsKeyed) (ρ : TypeRef → Option (TypeRef × Bool)) :
    (g.retypeBy ρ).FieldsKeyed := by
  apply Every.mapNodes hg
  exact fun _ c hc => Content.keyed_mapFields (fun _ ht => ht.retypeBy ρ) hc

theorem Alike.retypeBy (h : g.Alike g') (ρ : TypeRef → Option (TypeRef × Bool)) :
    (g.retypeBy ρ).Alike (g'.retypeBy ρ) :=
  h.mapNodes fun _ _ hc => hc.retypeBy ρ

/-- Types are replaced before or after a class arrives, if it agrees with the one that is there. -/
theorem arrived_retypeBy (horigin : origin.Fresh) {target? : Option ClassNode}
    (htarget : ∀ target ∈ target?, target.Fresh ∧
      target.content.fields.AgreesBy ρ origin.content.fields) :
    arrived old new (origin.retypeBy ρ) (target?.map (·.retypeBy ρ))
      = (arrived old new origin target?).retypeBy ρ := by
  rw [arrived, arrived, ← ClassNode.redirect_retypeBy]
  congr 1
  cases target? with
  | none => rfl
  | some target =>
      obtain ⟨hfresh, hagree⟩ := htarget target rfl
      exact hfresh.mergeContent_retypeBy horigin hagree

/-! ### Types of the fields of classes -/

/-- Classes of the names agree on the types of the fields that they share. -/
def AgreeOn (g : ClassGraph) (S : List String) : Prop :=
  ∀ a ∈ S, ∀ b ∈ S, ∀ c d, g.find? a = some c → g.find? b = some d →
    ∀ key f f', c.field? key = some f → d.field? key = some f' → f.typeRef = f'.typeRef

/-- The types that the node shows are types of classes of the names, key by key. -/
def ShowsTypesOf (g : ClassGraph) (S : List String) (c : ClassNode) : Prop :=
  ∀ key f, c.field? key = some f →
    ∃ a ∈ S, ∃ d f', g.find? a = some d ∧ d.field? key = some f' ∧ f'.typeRef = f.typeRef

theorem showsTypesOf_of_mem {n : String} {c : ClassNode} (hn : n ∈ S) (hc : g.find? n = some c) :
    g.ShowsTypesOf S c :=
  fun _ f hf => ⟨n, hn, c, f, hc, hf, rfl⟩

theorem AgreeOn.typeRef_eq (h : g.AgreeOn S) {c d : ClassNode} (hc : g.ShowsTypesOf S c)
    (hd : g.ShowsTypesOf S d) {key : String} {f f' : Field} (hf : c.field? key = some f)
    (hf' : d.field? key = some f') : f.typeRef = f'.typeRef := by
  obtain ⟨a, ha, c', k, hc', hk, htype⟩ := hc key f hf
  obtain ⟨b, hb, d', k', hd', hk', htype'⟩ := hd key f' hf'
  calc f.typeRef = k.typeRef := htype.symm
    _ = k'.typeRef := h a ha b hb c' d' hc' hd' key k k' hk hk'
    _ = f'.typeRef := htype'

/-- What is merged of nodes whose types agree shows these types. -/
theorem AgreeOn.showsTypesOf_mergeContent (h : g.AgreeOn S) {c d : ClassNode} (hc : c.Fresh)
    (hd : d.Fresh) (hcS : g.ShowsTypesOf S c) (hdS : g.ShowsTypesOf S d) :
    g.ShowsTypesOf S (c.mergeContent d) := by
  intro key f hf
  rw [ClassNode.field?, hc.content_mergeContent hd] at hf
  change (Content.mergeFields c.content.fields d.content.fields).get? key = some f at hf
  rw [Content.get?_mergeFields hd.keyed] at hf
  cases hown : c.content.fields.get? key with
  | none =>
      cases hother : d.content.fields.get? key with
      | none => simp [hown, hother] at hf
      | some other =>
          rw [hown, hother, Option.elim_some, Option.elim_none, Option.some.injEq] at hf
          exact hf ▸ hdS key other hother
  | some own =>
      cases hother : d.content.fields.get? key with
      | none =>
          rw [hown, hother, Option.elim_none] at hf
          exact Option.some.inj hf ▸ hcS key own hown
      | some other =>
          have hmerged := (hc.2 hown).typeRef_merge (hd.2 hother) (h.typeRef_eq hcS hdS hown hother)
          rw [hown, hother, Option.elim_some, Option.elim_some, Option.some.injEq] at hf
          obtain ⟨a, ha, c', f', hc', hf', htype⟩ := hcS key own hown
          exact ⟨a, ha, c', f', hc', hf', by rw [htype, ← hf, hmerged]⟩

/-! ### Types replaced before a move -/

theorem Footprint.retypeBy (h : g.Footprint S old new) (ρ : TypeRef → Option (TypeRef × Bool)) :
    (g.retypeBy ρ).Footprint S old new := by
  refine ⟨h.mem_old, h.mem_new, ?_⟩
  rw [names_retypeBy, LeavesBase, baseName?_retypeBy]
  apply h.bases.imp_right
  apply And.imp_right
  intro hclosed a ha b hd
  rw [Derives, baseName?_retypeBy] at hd
  exact hclosed a ha b hd

/-- Replacing types is a relation that merging keeps, among nodes that agree on their types. -/
theorem mergeRelation_retypeBy {P : ClassNode → Prop}
    (hmerge : ∀ {c d}, c.Fresh → d.Fresh → P c → P d →
      P (c.mergeContent d) ∧ c.content.fields.AgreesBy ρ d.content.fields)
    (hbase : ∀ {c} (base : Option String), P c → P { c with base := base }) :
    MergeRelation fun c c' => (c.Fresh ∧ P c) ∧ c.retypeBy ρ = c' where
  name h := by
    rw [← h.2]
    rfl
  base h := by
    rw [← h.2]
    rfl
  mergeContent h h' := by
    obtain ⟨⟨hc, hPc⟩, rfl⟩ := h
    obtain ⟨⟨hd, hPd⟩, rfl⟩ := h'
    obtain ⟨hP, hagree⟩ := hmerge hc hd hPc hPd
    exact ⟨⟨hc.mergeContent hd, hP⟩, (hc.mergeContent_retypeBy hd hagree).symm⟩
  withBase base h := ⟨⟨h.1.1, hbase base h.1.2⟩, congrArg (fun c => { c with base := base }) h.2⟩

/-- Where no link leads out of the footprint, types are replaced there before or after a class is
folded together with what stands above it. -/
theorem find?_retypeBy_moveClass_of_closed (hg : g.Fresh) (hclosed : g.ClosedUp S) (hold : old ∈ S)
    (hnew : new ∈ S) (hmoves : ¬ g.Stays old new) (hfold : new ∈ g.names)
    (hagree : (∀ p, ρ (.primitive p) = none) ∨ g.AgreeOn S) {n : String} (hn : n ∈ S) :
    ((g.retypeBy ρ).moveClass old new).find? n
      = ((g.moveClass old new).find? n).map (·.retypeBy ρ) := by
  obtain ⟨hbuiltin, hne, origin, horigin⟩ := not_stays_iff.1 hmoves
  have hbuiltin' : (g.retypeBy ρ).isBuiltin old = false :=
    (isBuiltin_retypeBy ρ g old).trans hbuiltin
  obtain ⟨P, hP, hmerge, hbase⟩ : ∃ P : ClassNode → Prop, (∀ n ∈ S, ∀ c, g.find? n = some c → P c) ∧
      (∀ {c d}, c.Fresh → d.Fresh → P c → P d →
        P (c.mergeContent d) ∧ c.content.fields.AgreesBy ρ d.content.fields) ∧
      ∀ {c} (base : Option String), P c → P { c with base := base } := by
    rcases hagree with hprimitive | hagree
    · exact ⟨fun _ => True, fun _ _ _ _ => trivial,
        fun _ _ _ _ => ⟨trivial, fun _ _ _ _ _ => .inl hprimitive⟩, fun _ _ => trivial⟩
    · exact ⟨g.ShowsTypesOf S, fun n hn c hc => showsTypesOf_of_mem hn hc,
        fun hc hd hcS hdS => ⟨hagree.showsTypesOf_mergeContent hc hd hcS hdS,
          fun _ _ _ hf hf' => .inr (hagree.typeRef_eq hcS hdS hf hf')⟩, fun _ hc => hc⟩
  have hrelated : RelatedOn (fun c c' => (c.Fresh ∧ P c) ∧ c.retypeBy ρ = c') S g
      (g.retypeBy ρ) := by
    refine ⟨fun n hn => ?_, hclosed⟩
    rw [find?_retypeBy]
    cases hc : g.find? n with
    | none => exact .none
    | some c => exact .some ⟨⟨(hg hc).fresh, hP n hn c hc⟩, rfl⟩
  have hmoved := hrelated.moveClass (mergeRelation_retypeBy hmerge hbase) hold hnew hbuiltin
    hbuiltin' hne horigin hfold
  rcases (hmoved.node n hn).eq_or_exists with ⟨hc, hc'⟩ | ⟨c, c', hc, hc', -, rfl⟩
  · rw [hc, hc', Option.map_none]
  · rw [hc, hc', Option.map_some]

theorem map_redirect_retypeBy (c? : Option ClassNode) :
    (c?.map (·.retypeBy ρ)).map (·.redirect old new)
      = (c?.map (·.redirect old new)).map (·.retypeBy ρ) := by
  cases c? with
  | none => rfl
  | some c => exact congrArg some (ClassNode.redirect_retypeBy c)

/-- Where a class leaves no base behind, types are replaced before or after it moves. -/
theorem find?_retypeBy_moveClass_of_leavesBase (hg : g.Fresh) (hmoves : ¬ g.Stays old new)
    (hbase : new ∈ g.names → g.LeavesBase old new)
    (hagree : ∀ target origin, g.find? new = some target → g.find? old = some origin →
      target.content.fields.AgreesBy ρ origin.content.fields) (n : String) :
    ((g.retypeBy ρ).moveClass old new).find? n
      = ((g.moveClass old new).find? n).map (·.retypeBy ρ) := by
  obtain ⟨hbuiltin, hne, origin, horigin⟩ := not_stays_iff.1 hmoves
  have hbuiltin' := (isBuiltin_retypeBy ρ g old).trans hbuiltin
  have horigin' : (g.retypeBy ρ).find? old = some (origin.retypeBy ρ) := by
    rw [find?_retypeBy, horigin, Option.map_some]
  have hbase' : new ∈ (g.retypeBy ρ).names → (g.retypeBy ρ).LeavesBase old new := by
    rwa [names_retypeBy, LeavesBase, baseName?_retypeBy]
  rw [find?_moveClass hbuiltin' hne horigin' hbase', find?_moveClass hbuiltin hne horigin hbase]
  by_cases hold : n = old
  · rw [if_pos hold, if_pos hold, Option.map_none]
  · rw [if_neg hold, if_neg hold]
    by_cases hn : n = new
    · rw [if_pos hn, if_pos hn, find?_retypeBy, arrived_retypeBy (hg horigin).fresh,
        Option.map_some]
      exact fun target htarget => ⟨(hg htarget).fresh, hagree target origin htarget horigin⟩
    · rw [if_neg hn, if_neg hn, find?_retypeBy, map_redirect_retypeBy]

/-- Types are replaced before or after a class moves, if the classes that the move touches agree on
them. -/
theorem alike_retypeBy_moveClass (hg : g.Fresh)
    (hfootprint : ¬ g.Stays old new → ∃ S, g.Footprint S old new ∧
      ((∀ p, ρ (.primitive p) = none) ∨ g.AgreeOn S)) :
    ((g.retypeBy ρ).moveClass old new).Alike ((g.moveClass old new).retypeBy ρ) := by
  have hsame : (g.retypeBy ρ).Stays old new ↔ g.Stays old new := by
    rw [Stays, isBuiltin_retypeBy, names_retypeBy, Stays]
  by_cases hstays : g.Stays old new
  · rw [hstays.moveClass_eq, (hsame.2 hstays).moveClass_eq]
    exact .refl _
  obtain ⟨S, hS, hagree⟩ := hfootprint hstays
  apply alike_of_find?_eq
  · rw [builtins_moveClass]
    exact builtins_moveClass g old new
  intro n
  rw [find?_retypeBy]
  rcases hS.bases with hbase | ⟨hfold, hclosed⟩
  · apply find?_retypeBy_moveClass_of_leavesBase hg hstays hbase
    intro target origin htarget horigin key f f' hf hf'
    exact hagree.imp_right fun hagree => hagree new hS.mem_new old hS.mem_old target origin
      htarget horigin key f f' hf hf'
  by_cases hn : n ∈ S
  · exact find?_retypeBy_moveClass_of_closed hg hclosed hS.mem_old hS.mem_new hstays hfold
      hagree hn
  · rw [(hS.retypeBy ρ).find?_moveClass (mt hsame.1 hstays) hn, hS.find?_moveClass hstays hn,
      find?_retypeBy, map_redirect_retypeBy]

end ClassGraph

end ClassInference
