import ClassInference.Proofs.Documents.Absorbed
import ClassInference.Proofs.Order.Alike

/-!
# Fields as documents show them

A field that no rule has touched has its key for a name, and refers to the class of its key if to
any. So two such fields of one key can be merged in either order, and with them the classes that
hold them.
-/

namespace ClassInference

open Json (Value)

/-! ### Fields -/

namespace Field

variable {key : String} {f f' f'' : Field}

/-- The field is one that values under the key make. -/
structure FreshAt (key : String) (f : Field) : Prop where
  wireName : f.wireName = key
  defaultName : f.defaultName = Naming.fieldName key
  override : f.override = none
  mapped : f.mapped = none
  nested : f.nested = none ∨ f.nested = some (Naming.typeName key)

theorem freshAt_new (key : String) : (new key).FreshAt key := ⟨rfl, rfl, rfl, rfl, .inl rfl⟩

theorem FreshAt.observe (hf : f.FreshAt key) (v : Value) :
    (f.observe v (Naming.typeName key)).FreshAt key where
  wireName := hf.wireName
  defaultName := hf.defaultName
  override := hf.override
  mapped := hf.mapped
  nested := by
    rcases hf.nested with h | h
    · cases hv : Observation.hasObject v <;> simp [Field.observe, h, hv]
    · exact .inr (by simp [Field.observe, h])

theorem FreshAt.merge (hf : f.FreshAt key) (hf' : f'.FreshAt key) : (f.merge f').FreshAt key where
  wireName := hf.wireName
  defaultName := hf.defaultName
  override := by simp [Field.merge, hf.override, hf'.override]
  mapped := by simp [Field.merge, hf.mapped, hf'.mapped]
  nested := by
    rcases hf.nested with h | h
    · rcases hf'.nested with h' | h' <;> simp [Field.merge, h, h']
    · exact .inr (by simp [Field.merge, h])

/-- Two references to a class are the same one. -/
theorem FreshAt.nested_comm (hf : f.FreshAt key) (hf' : f'.FreshAt key) :
    (f.nested <|> f'.nested) = (f'.nested <|> f.nested) := by
  rcases hf.nested with h | h <;> rcases hf'.nested with h' | h' <;> simp [h, h']

/-- Fields of one key are merged in either order. -/
theorem FreshAt.merge_comm (hf : f.FreshAt key) (hf' : f'.FreshAt key) :
    (f.merge f').Alike (f'.merge f) := by
  have hswap : f'.merge f = { f.merge f' with observed := (f'.merge f).observed } := by
    rw [Field.mk.injEq]
    refine ⟨?_, ?_, ?_, hf'.nested_comm hf, ?_, Bool.or_comm .., rfl⟩
    · exact hf'.wireName.trans hf.wireName.symm
    · exact hf'.defaultName.trans hf.defaultName.symm
    · simp [Field.merge, hf.override, hf'.override]
    · simp [Field.merge, hf.mapped, hf'.mapped]
  rw [hswap]
  exact .reorder List.perm_append_comm

/-- Two fields of one key are merged into a third one in either order. -/
theorem FreshAt.merge_right_comm (hf : f.FreshAt key) (hf' : f'.FreshAt key) (f'' : Field) :
    ((f''.merge f).merge f').Alike ((f''.merge f').merge f) := by
  have hnested : ((f''.nested <|> f.nested) <|> f'.nested)
      = ((f''.nested <|> f'.nested) <|> f.nested) := by
    cases f''.nested with
    | none => simpa using hf.nested_comm hf'
    | some n => rfl
  have hswap : (f''.merge f').merge f
      = { (f''.merge f).merge f' with observed := ((f''.merge f').merge f).observed } := by
    rw [Field.mk.injEq]
    refine ⟨rfl, rfl, ?_, hnested.symm, ?_, Bool.or_right_comm .., rfl⟩
    · simp [Field.merge, hf.override, hf'.override]
    · simp [Field.merge, hf.mapped, hf'.mapped]
  rw [hswap]
  apply Alike.reorder
  simp only [Field.merge, List.append_assoc]
  exact List.perm_append_comm.append_left _

end Field

/-! ### Tables and contents -/

/-- All fields are ones that values under their keys make. -/
def OrderedTable.FreshFields (t : OrderedTable Field) : Prop :=
  ∀ ⦃key f⦄, t.get? key = some f → f.FreshAt key

namespace Content

variable {t u v : OrderedTable Field}

theorem freshFields_empty : (∅ : OrderedTable Field).FreshFields := by
  intro key f h
  simp at h

theorem keyed_of_freshFields (ht : t.FreshFields) : t.Keyed := fun _ _ h => (ht h).wireName

theorem freshFields_note (ht : t.FreshFields) (key : String) (v : Value) :
    (note t key v (Naming.typeName key)).FreshFields := by
  intro k f h
  rw [get?_note] at h
  split at h
  · rename_i hk
    subst hk
    rw [Option.some.injEq] at h
    rw [← h]
    cases hf : t.get? k with
    | none => exact (Field.freshAt_new k).observe v
    | some own => exact (ht hf).observe v
  · exact ht h

theorem freshFields_mergeFields (ht : t.FreshFields) (hu : u.FreshFields) :
    (mergeFields t u).FreshFields := by
  intro k f h
  rw [get?_mergeFields (keyed_of_freshFields hu)] at h
  cases hother : u.get? k with
  | none =>
      rw [hother, Option.elim_none] at h
      exact ht h
  | some other =>
      rw [hother, Option.elim_some, Option.some.injEq] at h
      rw [← h]
      cases hown : t.get? k with
      | none => exact hu hother
      | some own => exact (ht hown).merge (hu hother)

theorem alike_mergeFields_comm (ht : t.FreshFields) (hu : u.FreshFields) :
    (mergeFields t u).Alike Field.Alike (mergeFields u t) := by
  intro k
  rw [get?_mergeFields (keyed_of_freshFields hu), get?_mergeFields (keyed_of_freshFields ht)]
  cases hf : t.get? k with
  | none => cases hf' : u.get? k <;> exact .refl Field.Alike.refl _
  | some f =>
      cases hf' : u.get? k with
      | none => exact .refl Field.Alike.refl _
      | some f' => exact .some ((ht hf).merge_comm (hu hf'))

theorem alike_mergeFields_right_comm (t : OrderedTable Field) (hu : u.FreshFields)
    (hv : v.FreshFields) :
    (mergeFields (mergeFields t u) v).Alike Field.Alike (mergeFields (mergeFields t v) u) := by
  intro k
  simp only [get?_mergeFields (keyed_of_freshFields hu), get?_mergeFields (keyed_of_freshFields hv)]
  cases hf : u.get? k with
  | none => cases v.get? k <;> exact .refl Field.Alike.refl _
  | some f =>
      cases hf' : v.get? k with
      | none => exact .refl Field.Alike.refl _
      | some f' =>
          cases t.get? k with
          | none => exact .some ((hu hf).merge_comm (hv hf'))
          | some own => exact .some ((hu hf).merge_right_comm (hv hf') own)

end Content

/-! ### Nodes -/

namespace ClassNode

variable {c d e : ClassNode}

/-- The node is a class whose fields documents have shown. -/
def Fresh (c : ClassNode) : Prop := c.content.isEnumeration = false ∧ c.content.fields.FreshFields

theorem Fresh.keyed (hc : c.Fresh) : c.content.fields.Keyed := Content.keyed_of_freshFields hc.2

theorem Fresh.record (hc : c.Fresh) : c.content = .record c.content.fields := by
  obtain ⟨fields, hfields⟩ := Content.exists_record hc.1
  rw [hfields]
  rfl

theorem Fresh.content_mergeContent (hc : c.Fresh) (hd : d.Fresh) :
    (c.mergeContent d).content
      = .record (Content.mergeFields c.content.fields d.content.fields) := by
  change c.content.merge d.content = _
  rw [hc.record, hd.record]
  rfl

theorem Fresh.mergeContent (hc : c.Fresh) (hd : d.Fresh) : (c.mergeContent d).Fresh := by
  rw [Fresh, hc.content_mergeContent hd]
  exact ⟨rfl, Content.freshFields_mergeFields hc.2 hd.2⟩

/-- A node with another content, which may differ in the order of what it holds. -/
theorem alike_of_content {content : Content} (h : c.content.Alike content) :
    c.Alike { c with content := content } :=
  .renumber c.id h

/-- Two classes are merged into a third one in either order. -/
theorem Fresh.mergeContent_right_comm (hc : c.Fresh) (hd : d.Fresh) (he : e.Fresh) :
    ((c.mergeContent d).mergeContent e).Alike ((c.mergeContent e).mergeContent d) := by
  have hcontent : ((c.mergeContent d).mergeContent e).content.Alike
      ((c.mergeContent e).mergeContent d).content := by
    rw [(hc.mergeContent hd).content_mergeContent he, (hc.mergeContent he).content_mergeContent hd,
      hc.content_mergeContent hd, hc.content_mergeContent he]
    exact .record (Content.alike_mergeFields_right_comm _ hd.2 he.2)
  exact alike_of_content hcontent

end ClassNode

/-! ### Graphs -/

namespace ClassGraph

variable {g : ClassGraph} {name : String} {c : ClassNode}

/-- A node as documents create it, but for its base. -/
structure FreshNode (g : ClassGraph) (name : String) (c : ClassNode) : Prop where
  named : c.name = name
  fresh : c.Fresh
  generate : c.generate = !g.isReserved c.package

/-- All nodes are as documents create them, but for their bases. -/
def Fresh (g : ClassGraph) : Prop := g.Every g.FreshNode

theorem Fresh.fieldsKeyed (hg : g.Fresh) : g.FieldsKeyed := fun _ _ hc => (hg hc).fresh.keyed

theorem Fresh.of_builtins {k : ClassGraph} (hb : k.builtins = g.builtins)
    (hk : k.Every g.FreshNode) : k.Fresh := by
  intro n c hc
  refine ⟨(hk hc).named, (hk hc).fresh, ?_⟩
  rw [(hk hc).generate, isReserved, isReserved, hb]

theorem freshFields_build (hg : g.Every fun _ c => c.content.fields.FreshFields)
    (document : Value) (package name : String) :
    (g.build document package name).Every fun _ c => c.content.fields.FreshFields := by
  apply buildValue_induction (motive := (Every · fun _ c => c.content.fields.FreshFields)) _ _ hg
  · intro k name hk
    exact hk.ensure Content.freshFields_empty
  · intro k name key v hk
    refine hk.modify (fun _ c hc => ?_) name
    change (c.content.mapFields _).fields.FreshFields
    cases hcontent : c.content with
    | enumeration constants => exact Content.freshFields_empty
    | record fields =>
        rw [hcontent] at hc
        exact Content.freshFields_note hc key v

/-- A graph of documents is fresh. -/
theorem fresh_documents (builtins : Builtins) (samples : List Sample) :
    ((new builtins).runCalls (samples.map Sample.call)).Fresh := by
  have hfields : ((new builtins).runCalls (samples.map Sample.call)).Every
      fun _ c => c.content.fields.FreshFields := by
    rw [runCalls, List.foldl_map]
    refine List.foldlRecOn (motive := (Every · fun _ c => c.content.fields.FreshFields)) _ _
      (every_new fun _ => Content.freshFields_empty) fun k hk s _ => ?_
    exact freshFields_build hk s.document s.package s.root
  have hplain := ((plain_new builtins).runCalls samples).1
  intro n c hc
  exact ⟨(hplain hc).named, ⟨hplain.recordsOnly hc, hfields hc⟩, (hplain hc).generate⟩

end ClassGraph

end ClassInference
