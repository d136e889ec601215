import ClassInference.Proofs.Fields.Changes
import ClassInference.Proofs.Fields.Merged
import ClassInference.Proofs.TypeRenames.Moves
import ClassInference.Proofs.TypeRenames.Spared

/-!
# What a type rename does

Renaming a type renames its class in place or folds it into the class of the new name, and then maps
every field of the type. The old name is gone from nodes, links and fields. Outside the new name and
its ancestors a field of the type has the new type, and nothing else has changed in any field.
-/

namespace ClassInference

/-! ### Fields -/

/-- The field after a rename of the type `old`: mapped if it has that type, otherwise as it is. -/
structure Field.Renamed (old : String) (target : TypeSpec) (f f' : Field) : Prop where
  wireName : f'.wireName = f.wireName
  override : f'.override = f.override
  observed : f'.observed = f.observed
  typeRef : f'.typeRef = if f.typeRef = .named old then .named target.name else f.typeRef
  isArray : f'.isArray = (f.isArray || f.typeRef = .named old && target.isArray)

namespace Field

theorem renamed_retype (f : Field) (old : String) (spec : TypeSpec) :
    f.Renamed old spec (f.retype (.named old) (.named spec.name) spec.isArray) where
  wireName := wireName_retype _ _ _ _
  override := override_retype _ _ _ _
  observed := observed_retype _ _ _ _
  typeRef := typeRef_retype _ _ _ _
  isArray := isArray_retype _ _ _ _

end Field

namespace Content

/-- The content with the fields of a type mapped. -/
def retype (c : Content) (source target : TypeRef) (asArray : Bool) : Content :=
  c.mapFields (·.map fun _ f => f.retype source target asArray)

theorem fields_retype (c : Content) (source target : TypeRef) (asArray : Bool) :
    (c.retype source target asArray).fields
      = c.fields.map fun _ f => f.retype source target asArray := by
  cases c <;> rfl

/-- Every field is renamed, in its place. -/
theorem renamed_retype (c : Content) (old : String) (spec : TypeSpec) {c' : Content}
    (hc : c' = c.retype (.named old) (.named spec.name) spec.isArray) :
    c'.fields.keys = c.fields.keys ∧ ∀ key f, c.fields.get? key = some f →
      ∃ f', c'.fields.get? key = some f' ∧ f.Renamed old spec f' := by
  rw [hc, fields_retype]
  refine ⟨OrderedTable.keys_map _ _, fun key f hf => ⟨_, ?_, f.renamed_retype old spec⟩⟩
  rw [OrderedTable.get?_map, hf, Option.map_some]

end Content

namespace ClassGraph

open OrderedTable Relation

variable {g k : ClassGraph} {old new : String} {target : TypeSpec} {origin : ClassNode}

/-- A name that is read as no primitive is read as the type of that name. -/
theorem resolveType_eq_named {name : String} (h : ∀ p, g.resolveType name ≠ .primitive p) :
    g.resolveType name = .named name := by
  unfold resolveType TypeRef.parseAliased TypeRef.parse at h ⊢
  split
  · simp_all
  · split <;> simp_all

/-! ### Nodes and their fields -/

theorem content?_renameType (g : ClassGraph) (old : String) (target : TypeSpec) (n : String) :
    (g.renameType old target).content? n
      = ((g.moveClass old target.name).content? n).map
          (·.retype (g.resolveType old) (g.resolveType target.name) target.isArray) := by
  rw [content?, find?_renameType, content?, Option.map_map, Option.map_map]
  rfl

/-- No field of the graph has the type that was renamed. -/
theorem typeRef_ne_of_renameType (hold : g.resolveType old = .named old)
    (hnew : g.resolveType target.name = .named target.name) (hne : old ≠ target.name) {n : String}
    {c : ClassNode} (hc : (g.renameType old target).find? n = some c) {f : Field}
    (hf : f ∈ c.fields) : f.typeRef ≠ .named old := by
  rw [find?_renameType, hold, hnew] at hc
  obtain ⟨d, -, rfl⟩ := Option.map_eq_some_iff.1 hc
  have hfields := d.content.fields_retype (.named old) (.named target.name) target.isArray
  obtain ⟨key, hkey⟩ := mem_values_iff.1 hf
  change (d.content.retype _ _ _).fields.get? key = _ at hkey
  rw [hfields, get?_map] at hkey
  obtain ⟨f', -, rfl⟩ := Option.map_eq_some_iff.1 hkey
  rw [Field.typeRef_retype]
  split
  · simpa using hne.symm
  · assumption

/-! ### The class that is moved -/

theorem base_ne_of_redirectBases (hne : old ≠ new) {n : String} {c : ClassNode}
    (hc : (g.redirectBases old new).find? n = some c) : c.base ≠ some old := by
  rw [redirectBases, find?_mapNodes] at hc
  obtain ⟨d, -, rfl⟩ := Option.map_eq_some_iff.1 hc
  split
  · dsimp only
    split
    · simp
    · simpa using hne.symm
  · assumption

/-- A class that moves leaves no link to its name. -/
theorem base_ne_of_moveClass (hbuiltin : g.isBuiltin old = false) (hne : old ≠ new)
    (horigin : g.find? old = some origin) {n : String} {c : ClassNode}
    (hc : (g.moveClass old new).find? n = some c) : c.base ≠ some old := by
  by_cases hnew : new ∈ g.names
  · rw [moveClass_of_mem_names hbuiltin hne horigin hnew] at hc
    exact base_ne_of_redirectBases hne hc
  · rw [moveClass_of_not_mem_names hbuiltin hne horigin hnew] at hc
    exact base_ne_of_redirectBases hne hc

/-- Moving a class leaves the content of every node that is not above the new name. -/
theorem content?_moveClass_of_not_above {n : String} (hold : n ≠ old) (hnew : n ≠ new)
    (habove : n ∉ g.ancestors new) : (g.moveClass old new).content? n = g.content? n := by
  have hmove := g.move_moveClass old new
  generalize g.moveClass old new = moved at hmove
  cases hmove with
  | stays => rfl
  | renamed _ _ _ hfree =>
      rw [content?_redirectBases, content?, find?_rekey hfree, if_neg hnew, if_neg hold, content?]
  | @folded origin _ _ horigin _ =>
      have hreach : ¬ ReflTransGen (g.erase old).Derives new n := by
        intro hp
        have hp' : ReflTransGen g.Derives new n :=
          ReflTransGen.mono (fun _ _ hd => (derives_erase.1 hd).2) _ _ hp
        rcases reflTransGen_iff_eq_or_transGen.1 hp' with he | ht
        · exact hnew he
        · exact habove (mem_ancestors_iff.2 ⟨hnew, ht⟩)
      rw [content?_redirectBases, content?, merge, find?_mergeFrom_of_not_reflTransGen hreach,
        find?_erase, if_neg hold, content?]

/-- A class that is folded is merged into the class of the new name. -/
theorem content?_moveClass_of_mem_names (hbuiltin : g.isBuiltin old = false) (hne : old ≠ new)
    (horigin : g.find? old = some origin) {own : ClassNode} (hown : g.find? new = some own) :
    (g.moveClass old new).content? new = some (own.content.merge origin.content) := by
  have herased : (g.erase old).find? new = some own := by
    rw [find?_erase, if_neg hne.symm, hown]
  rw [moveClass_of_mem_names hbuiltin hne horigin (mem_names_of_find? hown),
    content?_redirectBases, merge, content?_mergeFrom List.not_mem_nil herased]

theorem not_mem_names_moveClass (hbuiltin : g.isBuiltin old = false) (hne : old ≠ new)
    (horigin : g.find? old = some origin) : old ∉ (g.moveClass old new).names := by
  by_cases hmem : new ∈ g.names
  · rw [moveClass_of_mem_names hbuiltin hne horigin hmem, names_folded]
    simp
  · rw [moveClass_of_not_mem_names hbuiltin hne horigin hmem, names_renamed hmem, List.mem_map]
    rintro ⟨n, -, hn⟩
    split at hn
    · exact hne hn.symm
    · exact absurd hn ‹_›

/-- A class that is folded is gone, and the others keep their identities. -/
theorem identity?_renameType_of_folded (hbuiltin : g.isBuiltin old = false)
    (hne : old ≠ target.name) (horigin : g.find? old = some origin)
    (hnew : target.name ∈ g.names) (n : String) :
    (g.renameType old target).identity? n = if n = old then none else g.identity? n := by
  rw [identity?_renameType, moveClass_of_mem_names hbuiltin hne horigin hnew, identity?_folded]

/-- No node takes over the identity of a class that is folded. -/
theorem not_mem_ids_renameType (hnum : g.Numbered) (hbuiltin : g.isBuiltin old = false)
    (hne : old ≠ target.name) (horigin : g.find? old = some origin)
    (hnew : target.name ∈ g.names) : origin.id ∉ (g.renameType old target).ids := by
  intro hmem
  -- a node of the origin's identity was there before, under another name
  obtain ⟨d, hd, hdi⟩ := List.mem_map.1 hmem
  obtain ⟨n, hn⟩ := OrderedTable.mem_values_iff.1 hd
  have hkept : (g.renameType old target).identity? n = some d.identity := by
    rw [identity?, find?, hn]
    rfl
  rw [identity?_renameType_of_folded hbuiltin hne horigin hnew] at hkept
  split at hkept
  · simp at hkept
  · rename_i hnold
    obtain ⟨e, he, hei⟩ := Option.map_eq_some_iff.1 hkept
    exact hnold (hnum.name_eq he horigin ((congrArg Identity.id hei).trans hdi))

/-- The fields of two records, the one folded into the other. -/
theorem exists_record_renameType (hkeyed : g.FieldsKeyed) (hbuiltin : g.isBuiltin old = false)
    (hne : old ≠ target.name) (horigin : g.find? old = some origin) {own : ClassNode}
    (hown : g.find? target.name = some own) {fields others : OrderedTable Field}
    (hfields : own.content = .record fields) (hothers : origin.content = .record others) :
    ∃ c merged, (g.renameType old target).find? target.name = some c ∧
      c.content = .record merged ∧
      merged.keys = fields.keys ++ others.keys.filter (· ∉ fields.keys) ∧
        ∀ key f, merged.get? key = some f →
          f.observed = ((fields.get? key).elim [] (·.observed))
            ++ (others.get? key).elim [] (·.observed) := by
  have hkeyedOthers : others.Keyed := by
    have h : origin.content.fields.Keyed := hkeyed horigin
    rwa [hothers] at h
  have hcontent : (g.renameType old target).content? target.name = some
      ((Content.record (Content.mergeFields fields others)).retype
        (g.resolveType old) (g.resolveType target.name) target.isArray) := by
    rw [content?_renameType, content?_moveClass_of_mem_names hbuiltin hne horigin hown, hfields,
      hothers]
    rfl
  obtain ⟨c, hc, hcc⟩ := content?_eq_some_iff.1 hcontent
  refine ⟨c, _, hc, hcc, ?_, ?_⟩
  · rw [OrderedTable.keys_map, Content.keys_mergeFields hkeyedOthers]
  · intro key f hf
    rw [OrderedTable.get?_map] at hf
    obtain ⟨f', hf', rfl⟩ := Option.map_eq_some_iff.1 hf
    rw [Field.observed_retype, Content.observed_mergeFields hkeyedOthers hf']

/-! ### The effect of a rule -/

/-- The graph `k` after the class `origin` of the name `old` has become, or been folded into, the
class of the target's name in `g`. -/
structure ReplacesType (g k : ClassGraph) (old : String) (target : TypeSpec) (origin : ClassNode) :
    Prop where
  not_mem_names : old ∉ k.names
  base_ne : ∀ n c, k.find? n = some c → c.base ≠ some old
  typeRef_ne : ∀ n c, k.find? n = some c → ∀ f ∈ c.fields, f.typeRef ≠ .named old
  /-- A free name is taken in the origin's place and with its identity. -/
  renamed : target.name ∉ g.names →
    k.names = (g.names.map fun n => if n = old then target.name else n) ∧
      ∃ c, k.find? target.name = some c ∧ c.id = origin.id
  /-- A class of the name keeps its place and its identity, and the origin's is gone. -/
  folded : ∀ own, g.find? target.name = some own →
    k.names = g.names.filter (· != old) ∧
      (∃ c, k.find? target.name = some c ∧ c.id = own.id) ∧ origin.id ∉ k.ids
  /-- A record takes in the fields of a record. -/
  combined : ∀ own fields others, g.find? target.name = some own →
    own.content = .record fields → origin.content = .record others →
      ∃ c merged, k.find? target.name = some c ∧ c.content = .record merged ∧
        merged.keys = fields.keys ++ others.keys.filter (· ∉ fields.keys) ∧
          ∀ key f, merged.get? key = some f →
            f.observed = ((fields.get? key).elim [] (·.observed))
              ++ (others.get? key).elim [] (·.observed)
  /-- Below the target's ancestors nothing but the type has changed in any field. -/
  spared : ∀ n c, g.find? n = some c → n ≠ old → n ≠ target.name →
    n ∉ g.ancestors target.name →
      ∃ c', k.find? n = some c' ∧ c'.content.fields.keys = c.content.fields.keys ∧
        ∀ key f, c.content.fields.get? key = some f →
          ∃ f', c'.content.fields.get? key = some f' ∧ f.Renamed old target f'

/-- A type rename that finds its class and reads both names as types replaces the one by the other.
-/
theorem replacesType_renameType (hkeyed : g.FieldsKeyed) (hnum : g.Numbered)
    (horigin : g.find? old = some origin) (hbuiltin : g.isBuiltin old = false)
    (hne : old ≠ target.name) (hold : g.resolveType old = .named old)
    (hnew : g.resolveType target.name = .named target.name) :
    g.ReplacesType (g.renameType old target) old target origin where
  not_mem_names := by
    rw [names_renameType]
    exact not_mem_names_moveClass hbuiltin hne horigin
  base_ne n c hc := by
    rw [find?_renameType] at hc
    obtain ⟨d, hd, rfl⟩ := Option.map_eq_some_iff.1 hc
    have hbase : d.base ≠ some old := base_ne_of_moveClass hbuiltin hne horigin hd
    exact hbase
  typeRef_ne n c hc f hf := typeRef_ne_of_renameType hold hnew hne hc hf
  renamed hfree := by
    have hmove := moveClass_of_not_mem_names hbuiltin hne horigin hfree
    have hid : (g.renameType old target).identity? target.name = some origin.identity := by
      rw [identity?_renameType, hmove, identity?_renamed hfree, if_pos rfl, identity?, horigin]
      rfl
    obtain ⟨c, hc, hci⟩ := Option.map_eq_some_iff.1 hid
    refine ⟨?_, c, hc, congrArg Identity.id hci⟩
    rw [names_renameType, hmove, names_renamed hfree]
  folded own hown := by
    have hmem := mem_names_of_find? hown
    have hid : (g.renameType old target).identity? target.name = some own.identity := by
      rw [identity?_renameType_of_folded hbuiltin hne horigin hmem, if_neg hne.symm, identity?,
        hown]
      rfl
    obtain ⟨c, hc, hci⟩ := Option.map_eq_some_iff.1 hid
    refine ⟨?_, ⟨c, hc, congrArg Identity.id hci⟩, ?_⟩
    · rw [names_renameType, moveClass_of_mem_names hbuiltin hne horigin hmem, names_folded]
    · exact not_mem_ids_renameType hnum hbuiltin hne horigin hmem
  combined _ _ _ hown hfields hothers :=
    exists_record_renameType hkeyed hbuiltin hne horigin hown hfields hothers
  spared n c hc hnold hnnew habove := by
    have hcontent : (g.renameType old target).content? n
        = some (c.content.retype (.named old) (.named target.name) target.isArray) := by
      rw [content?_renameType, content?_moveClass_of_not_above hnold hnnew habove, content?, hc,
        hold, hnew]
      rfl
    obtain ⟨c', hc', hcc⟩ := content?_eq_some_iff.1 hcontent
    exact ⟨c', hc', c.content.renamed_retype old target hcc⟩

/-- In every graph that calls lead to, a type rename of a class that is not built in, from one name
to another and neither that of a primitive, replaces the one type by the other. -/
theorem replacesType_runCalls (builtins : Builtins) (calls : List Call)
    (horigin : ((ClassGraph.new builtins).runCalls calls).find? old = some origin)
    (hbuiltin : ((ClassGraph.new builtins).runCalls calls).isBuiltin old = false)
    (hne : target.name ≠ old)
    (hold : ∀ p, ((ClassGraph.new builtins).runCalls calls).resolveType old ≠ .primitive p)
    (hnew : ∀ p,
      ((ClassGraph.new builtins).runCalls calls).resolveType target.name ≠ .primitive p) :
    ((ClassGraph.new builtins).runCalls calls).ReplacesType
      (((ClassGraph.new builtins).runCalls calls).renameType old target) old target origin := by
  have hnum : ((ClassGraph.new builtins).runCalls calls).Numbered := by
    rw [runCalls_eq_run]
    exact numbered_run builtins _
  exact replacesType_renameType (fieldsKeyed_runCalls builtins calls) hnum horigin hbuiltin
    hne.symm (resolveType_eq_named hold) (resolveType_eq_named hnew)

/-- `B` refers to itself and has a field that `C` has too, and `Root` refers to both. -/
def referringCalls : List Call :=
  [.edit (.build (.object [("b", .object [("x", .bool true), ("b", .object [])]),
    ("c", .array [.object [("x", .string "s"), ("y", .null)]])]) "p" "Root")]

theorem replacesType_referringCalls :
    let g := (ClassGraph.new ⟨"java.lang", "String", "java"⟩).runCalls referringCalls
    ∃ origin, g.find? "B" = some origin ∧
      g.ReplacesType (g.renameType "B" ⟨"C", true⟩) "B" ⟨"C", true⟩ origin := by
  intro g
  have hfind : (g.find? "B").isSome = true := by decide +kernel
  obtain ⟨origin, horigin⟩ := Option.isSome_iff_exists.1 hfind
  have hbuiltin : g.isBuiltin "B" = false := by decide +kernel
  have hold : g.resolveType "B" = .named "B" := by decide +kernel
  have hnew : g.resolveType "C" = .named "C" := by decide +kernel
  exact ⟨origin, horigin, replacesType_runCalls _ _ horigin hbuiltin (by decide)
    (by simp [g, hold]) (by simp [g, hnew])⟩

end ClassGraph

end ClassInference
