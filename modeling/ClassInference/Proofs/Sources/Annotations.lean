import ClassInference.ClassGraph.Description
import ClassInference.Generator
import ClassInference.Proofs.Fields.Parameters
import ClassInference.Proofs.MemberNames

/-!
# Annotations of fields

Whether a field states its wire name is answered twice. The description of a class compares the wire
name with the name that the field has in the graph. The declaration compares it with the identifier,
in which a reserved word is escaped, and marks every member that gets a number. So the answers agree
as far as neither escaping nor numbering makes a difference to the name.
-/

namespace ClassInference

open Json (Value)

namespace Declaration

variable {fields : List Field} {f : Field}

/-- The parameters before the declared field of a wire name: those of the base, then the fields that
are declared before it. -/
def Kind.before (k : Kind) (wireName : String) : List FieldDecl :=
  k.params.take (k.params.length - k.fields.length)
    ++ k.fields.takeWhile (·.wireName != wireName)

theorem Kind.before_eq {k : Kind} {above : List FieldDecl} (h : k.params = above ++ k.fields)
    (wireName : String) :
    k.before wireName = above ++ k.fields.takeWhile (·.wireName != wireName) := by
  rw [before, h, List.length_append, Nat.add_sub_cancel, List.take_left]

/-- A member is marked if the identifier is not the wire name, or if it gets a number. -/
theorem annotated_settle_eq (taken : List String) (m : FieldDecl) :
    (settle taken m).annotated = (m.annotated || decide (m.accessor ∈ taken)) := by
  unfold settle
  split
  · rename_i htaken
    simp [htaken]
  · rename_i hfree
    simp [hfree]

/-- A field parts a list in which no other field has its wire name. -/
theorem exists_append_of_mem (hn : (fields.map (·.wireName)).Nodup) (hf : f ∈ fields) :
    ∃ earlier later, fields = earlier ++ f :: later
      ∧ f.wireName ∉ earlier.map (·.wireName) := by
  obtain ⟨earlier, later, rfl⟩ := List.append_of_mem hf
  refine ⟨earlier, later, rfl, ?_⟩
  rw [List.map_append, List.map_cons, List.nodup_append] at hn
  intro hmem
  exact hn.2.2 _ hmem _ List.mem_cons_self rfl

section Parted

variable {pre post : List FieldDecl} {m : FieldDecl} (hpre : m.wireName ∉ pre.map (·.wireName))

include hpre

theorem takeWhile_wireName :
    (pre ++ m :: post).takeWhile (·.wireName != m.wireName) = pre := by
  have hother : ∀ x ∈ pre, (x.wireName != m.wireName) = true := by
    intro x hx
    rw [bne_iff_ne]
    intro he
    exact hpre (he ▸ List.mem_map_of_mem hx)
  rw [List.takeWhile_append_of_pos hother, List.takeWhile_cons_of_neg (by simp), List.append_nil]

theorem find?_wireName :
    (pre ++ m :: post).find? (·.wireName == m.wireName) = some m := by
  have hother : pre.find? (·.wireName == m.wireName) = none := by
    rw [List.find?_eq_none]
    intro x hx he
    rw [beq_iff_eq] at he
    exact hpre (he ▸ List.mem_map_of_mem hx)
  rw [List.find?_append, hother, Option.none_or, List.find?_cons_of_pos (by simp)]

end Parted

/-- A member of a list is settled under the accessors of those before it. -/
theorem find?_uniqueMembers (d : Dialect) (hn : (fields.map (·.wireName)).Nodup) (hf : f ∈ fields)
    (taken : List String) :
    (uniqueMembers d taken fields).find? (·.wireName == f.wireName)
      = some (settle ((accessors ((uniqueMembers d taken fields).takeWhile
          (·.wireName != f.wireName))).reverse ++ taken) (f.declare d)) := by
  obtain ⟨earlier, later, rfl, hearlier⟩ := exists_append_of_mem hn hf
  rw [uniqueMembers_append, uniqueMembers]
  set pre := uniqueMembers d taken earlier
  set m := settle ((accessors pre).reverse ++ taken) (f.declare d)
  have hwire : m.wireName = f.wireName := wireName_settle _ _
  have hfirst : m.wireName ∉ pre.map (·.wireName) := by
    rwa [hwire, map_wireName_uniqueMembers]
  rw [← hwire, find?_wireName hfirst, takeWhile_wireName hfirst]

end Declaration

namespace Dialect

theorem identifier_eq_self_iff {d : Dialect} (hd : d = .java ∨ d = .csharp) (name : String) :
    d.identifier name = name ↔ d.isKeyword name = false := by
  constructor
  · intro h
    rw [← h]
    exact isKeyword_identifier hd name
  · intro h
    rw [identifier, h]
    rfl

end Dialect

namespace ClassGraph

open Declaration

/-! ### The two answers -/

/-- The item of a description that stands for the field of a wire name. -/
def describesField (wireName : String) (item : Value) : Bool :=
  match item.member? "json_name" with
  | some (.string w) => w == wireName
  | _ => false

def markOf? (item : Value) : Option Bool :=
  match item.member? "annotated" with
  | some (.bool marked) => some marked
  | _ => none

/-- What the description of a class says of the mark of a field. -/
def reportedMark? (g : ClassGraph) (c : ClassNode) (wireName : String) : Option Bool :=
  match (g.describeClass c).member? "fields" with
  | some (.array items) => (items.find? (describesField wireName)).bind markOf?
  | _ => none

/-- What the file of a class makes of the mark of a field. -/
def declaredMark? (g : ClassGraph) (d : Dialect) (c : ClassNode) (wireName : String) :
    Option Bool :=
  ((g.declare d c).kind.fields.find? (·.wireName == wireName)).map (·.annotated)

/-- The field is described and declared, either time with the same mark. -/
def MarksAlike (g : ClassGraph) (d : Dialect) (c : ClassNode) (f : Field) : Prop :=
  ∃ marked, g.reportedMark? c f.wireName = some marked ∧
    g.declaredMark? d c f.wireName = some marked

/-- A parameter before the field has the accessor that the field asks for. -/
def Clashes (g : ClassGraph) (d : Dialect) (c : ClassNode) (f : Field) : Prop :=
  Naming.capitalize (d.identifier f.name) ∈ accessors ((g.declare d c).kind.before f.wireName)

instance (g : ClassGraph) (d : Dialect) (c : ClassNode) (f : Field) :
    Decidable (g.Clashes d c f) :=
  inferInstanceAs (Decidable (_ ∈ _))

variable {g : ClassGraph} {d : Dialect} {c : ClassNode} {f : Field}

/-! ### The description -/

theorem member?_fields_describeClass (hr : c.content.isEnumeration = false) :
    (g.describeClass c).member? "fields" = some (.array (c.fields.map (g.describeField c))) := by
  unfold describeClass ClassNode.fields
  cases hcontent : c.content with
  | enumeration constants => simp [hcontent, Content.isEnumeration] at hr
  | record fields => cases c.base <;> rfl

theorem describesField_comp_describeField (wireName : String) (c : ClassNode) :
    describesField wireName ∘ g.describeField c = (·.wireName == wireName) := rfl

theorem markOf?_describeField (c : ClassNode) (f : Field) :
    markOf? (g.describeField c f) = some f.needsWireName := rfl

theorem reportedMark?_of_mem (hk : g.FieldsKeyed) (hc : g.find? c.name = some c)
    (hr : c.content.isEnumeration = false) (hf : f ∈ c.fields) :
    g.reportedMark? c f.wireName = some f.needsWireName := by
  have hkeyed := hk hc
  obtain ⟨key, hkey⟩ := OrderedTable.mem_values_iff.1 hf
  have hfind : c.fields.find? (·.wireName == f.wireName) = some f := by
    rw [ClassNode.fields, hkeyed.find?_values, hkeyed hkey, hkey]
  rw [reportedMark?, member?_fields_describeClass hr]
  dsimp only
  rw [List.find?_map, describesField_comp_describeField, hfind, Option.map_some,
    Option.bind_some, markOf?_describeField]

/-! ### The declaration -/

theorem declaredFields_eq_filter (hc : g.find? c.name = some c) :
    g.declaredFields c.name = c.fields.filter fun f => !g.inherits c.name f.wireName := by
  rw [declaredFields, ownFields, hc]
  rfl

theorem FieldsKeyed.nodup_wireNames_declaredFields (hk : g.FieldsKeyed)
    (hc : g.find? c.name = some c) : ((g.declaredFields c.name).map (·.wireName)).Nodup := by
  rw [declaredFields_eq_filter hc]
  exact (hk.nodup_wireNames hc).sublist (List.filter_sublist.map _)

theorem isEnumeration_of_mem_fields (hf : f ∈ c.fields) : c.content.isEnumeration = false := by
  unfold ClassNode.fields at hf
  cases hcontent : c.content with
  | record fields => rfl
  | enumeration constants =>
      rw [hcontent] at hf
      cases hf

/-- A declared field is settled under the accessors of the parameters before it. -/
theorem find?_fields_declare (d : Dialect) (hk : g.FieldsKeyed) (hc : g.find? c.name = some c)
    (hr : c.content.isEnumeration = false) (hf : f ∈ g.declaredFields c.name) :
    (g.declare d c).kind.fields.find? (·.wireName == f.wireName)
      = some (settle (accessors ((g.declare d c).kind.before f.wireName)).reverse
          (f.declare d)) := by
  -- the constructor takes the fields of the ancestors, then the declared ones
  obtain ⟨above, habove⟩ : ∃ above,
      g.constructorFields c.name = above ++ g.declaredFields c.name := ⟨_, rfl⟩
  have hfields := fields_declare d hr habove
  have hparams : (g.declare d c).kind.params
      = uniqueMembers d [] above ++ (g.declare d c).kind.fields := by
    rw [params_declare d hr, hfields, habove, uniqueMembers_above_append]
  have hnodup := hk.nodup_wireNames_declaredFields hc
  rw [Kind.before_eq hparams, hfields, addedMembers, find?_uniqueMembers d hnodup hf]
  simp only [accessors, List.map_append, List.reverse_append]

theorem declaredMark?_of_mem (d : Dialect) (hk : g.FieldsKeyed) (hc : g.find? c.name = some c)
    (hr : c.content.isEnumeration = false) (hf : f ∈ g.declaredFields c.name) :
    g.declaredMark? d c f.wireName
      = some (d.identifier f.name != f.wireName || decide (g.Clashes d c f)) := by
  rw [declaredMark?, find?_fields_declare d hk hc hr hf, Option.map_some, annotated_settle_eq]
  simp only [List.mem_reverse]
  rfl

/-! ### Where the answers agree -/

/-- In Java and C# a declared field is described with the mark that it is declared with in two cases
only: its name is the wire name, no reserved word and does not clash, or its name is another one and
either the escape does not lead it back to the wire name or it clashes. -/
theorem marksAlike_iff (hd : d = .java ∨ d = .csharp) (hk : g.FieldsKeyed)
    (hc : g.find? c.name = some c) (hf : f ∈ g.declaredFields c.name) :
    g.MarksAlike d c f ↔
      (f.name = f.wireName → d.isKeyword f.name = false ∧ ¬ g.Clashes d c f) ∧
        (f.name ≠ f.wireName → d.identifier f.name = f.wireName → g.Clashes d c f) := by
  have hown : f ∈ c.fields := (List.mem_filter.1 (declaredFields_eq_filter hc ▸ hf)).1
  have hr := isEnumeration_of_mem_fields hown
  have hmarks : g.MarksAlike d c f ↔
      f.needsWireName = (d.identifier f.name != f.wireName || decide (g.Clashes d c f)) := by
    rw [MarksAlike, reportedMark?_of_mem hk hc hr hown, declaredMark?_of_mem d hk hc hr hf]
    simp [eq_comm]
  rw [hmarks, Field.needsWireName, Bool.eq_iff_iff, Bool.or_eq_true, bne_iff_ne, bne_iff_ne,
    decide_eq_true_eq, ← Dialect.identifier_eq_self_iff hd]
  by_cases hname : f.name = f.wireName
  · -- the description does not mark the field
    simp [hname]
  · simp [hname, imp_iff_not_or]

/-- A key that is a reserved word, two keys of one name, and two keys that are the escape of a
reserved word, in Java and in C#. -/
def markedDocument : Value :=
  .object [("class", .bool true), ("A", .bool true), ("a", .bool true), ("int_", .bool true),
    ("@long", .bool true)]

/-- The finished graph of a document of the root class. -/
def finishedOf (d : Dialect) (document : Value) : ClassGraph :=
  ((Generator.new "p" "Root" d).observe document).finishedGraph

theorem fieldsKeyed_finishedOf (d : Dialect) (document : Value) :
    (finishedOf d document).FieldsKeyed :=
  fieldsKeyed_runCalls ⟨d.builtinPackage, d.stringType, d.reservedPrefix⟩
    [.edit (.build document "p" "Root"), .applyRules ∅]

theorem marksAlike_iff_markedDocument :
    let g := finishedOf .java markedDocument
    ∃ c, g.find? c.name = some c ∧ ∃ f ∈ g.declaredFields c.name,
      (g.MarksAlike .java c f ↔
        (f.name = f.wireName → Dialect.java.isKeyword f.name = false ∧ ¬ g.Clashes .java c f) ∧
          (f.name ≠ f.wireName → Dialect.java.identifier f.name = f.wireName →
            g.Clashes .java c f)) := by
  intro g
  have hnode : (g.find? "Root").map (·.name) = some "Root" := by decide +kernel
  obtain ⟨c, hc, hname⟩ := Option.map_eq_some_iff.1 hnode
  have hfield : (g.declaredFields "Root").head?.isSome = true := by decide +kernel
  obtain ⟨f, hf⟩ := Option.isSome_iff_exists.1 hfield
  have hself : g.find? c.name = some c := hname ▸ hc
  have hmem : f ∈ g.declaredFields c.name := hname ▸ List.mem_of_head? hf
  exact ⟨c, hself, f, hmem, marksAlike_iff (.inl rfl) (fieldsKeyed_finishedOf _ _) hself hmem⟩

/-- In each of these cases the description and the declaration contradict each other. -/
theorem not_marksAlike_markedDocument :
    (∀ p ∈ [("class", false), ("a", false), ("int_", true)],
      let g := finishedOf .java markedDocument
      ∃ c ∈ g.nodes, ∃ f ∈ g.declaredFields c.name, f.wireName = p.1 ∧
        g.reportedMark? c f.wireName = some p.2 ∧
        g.declaredMark? .java c f.wireName = some !p.2) ∧
    (∀ p ∈ [("class", false), ("a", false), ("@long", true)],
      let g := finishedOf .csharp markedDocument
      ∃ c ∈ g.nodes, ∃ f ∈ g.declaredFields c.name, f.wireName = p.1 ∧
        g.reportedMark? c f.wireName = some p.2 ∧
        g.declaredMark? .csharp c f.wireName = some !p.2) := by
  decide +kernel

end ClassGraph

end ClassInference
