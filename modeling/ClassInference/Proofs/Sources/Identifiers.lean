import ClassInference.Proofs.CapitalForms
import ClassInference.Proofs.Fields.Parameters
import ClassInference.Proofs.MemberNames
import Mathlib.Data.List.Nodup

/-!
# Identifiers of a class

In C# a class declares a field and a property for each of its members, the property under the
accessor, and both stand in one scope. The members have different accessors, and none of them is the
name of another member, since a name that is capital already is its own accessor. What is left is a
member whose name is its own accessor: its field and its property are declared under one identifier.
-/

namespace ClassInference

namespace Declaration

open Naming

/-- The names of members and those of their accessors. -/
def identifiers (members : List FieldDecl) : List String :=
  members.map (·.name) ++ accessors members

theorem nodup_identifiers_iff {members : List FieldDecl} (h : (accessors members).Nodup) :
    (identifiers members).Nodup ↔ ∀ m ∈ members, m.accessor ≠ m.name := by
  constructor
  · intro hn m hm he
    rw [identifiers, List.nodup_append] at hn
    exact hn.2.2 _ (List.mem_map_of_mem hm) _ (List.mem_map_of_mem hm) he.symm
  · intro hown
    have hnames : (members.map (·.name)).Nodup := by
      have hmap : (members.map (·.name)).map capitalize = accessors members := by
        rw [List.map_map]
        rfl
      exact List.Nodup.of_map capitalize (hmap ▸ h)
    rw [identifiers, List.nodup_append]
    refine ⟨hnames, h, ?_⟩
    intro name hname accessor haccessor he
    obtain ⟨m, hm, rfl⟩ := List.mem_map.1 hname
    obtain ⟨m', hm', rfl⟩ := List.mem_map.1 haccessor
    have hsame : m.accessor = m'.accessor := by
      calc m.accessor
          = capitalize (capitalize m'.name) := congrArg capitalize he
        _ = m'.accessor := capitalize_capitalize m'.name
    obtain rfl := List.inj_on_of_nodup_map h hm hm' hsame
    exact hown m hm he.symm

/-- A number after a name does not make it another one than its accessor. -/
theorem accessor_settle_eq_iff (taken : List String) (f : FieldDecl) :
    (settle taken f).accessor = (settle taken f).name ↔ f.accessor = f.name := by
  unfold settle
  split
  · rw [FieldDecl.accessor, capitalize_suffixed]
    exact String.append_left_inj _
  · exact Iff.rfl

theorem forall_accessor_ne_uniqueMembers_iff (d : Dialect) (taken : List String)
    (fields : List Field) :
    (∀ m ∈ uniqueMembers d taken fields, m.accessor ≠ m.name) ↔
      ∀ f ∈ fields, capitalize (d.identifier f.name) ≠ d.identifier f.name := by
  have hmap := map_uniqueMembers d (fun m => m.accessor ≠ m.name)
    (fun taken f => propext (not_congr (accessor_settle_eq_iff taken f))) taken fields
  calc (∀ m ∈ uniqueMembers d taken fields, m.accessor ≠ m.name)
      ↔ ∀ p ∈ (uniqueMembers d taken fields).map fun m => m.accessor ≠ m.name, p :=
        (List.forall_mem_map (P := id)).symm
    _ ↔ ∀ p ∈ fields.map fun f => (f.declare d).accessor ≠ (f.declare d).name, p := by rw [hmap]
    _ ↔ ∀ f ∈ fields, capitalize (d.identifier f.name) ≠ d.identifier f.name :=
        List.forall_mem_map (P := id)

end Declaration

namespace Dialect

/-- In C# a name is its own accessor if it is escaped, or if its first character has no other
capital form. -/
theorem capitalize_identifier_csharp_ne_iff (name : String) :
    Naming.capitalize (csharp.identifier name) ≠ csharp.identifier name ↔
      csharp.isKeyword name = false ∧
        ∃ first ∈ name.toList.head?, Text.capitalForm first ≠ [first] := by
  have hmark : Text.capitalForm '@' = ['@'] := by decide +kernel
  rw [ne_eq, Naming.capitalize_eq_self_iff, identifier]
  split
  · rename_i hkeyword
    simp [toList_fill_keywordEscape_csharp, hmark, hkeyword]
  · rename_i hkeyword
    simp [hkeyword]

end Dialect

namespace ClassGraph

open Declaration

/-- A C# class declares no identifier twice exactly if none of its own fields is called by a
reserved word or begins with a character that is its own capital form. -/
theorem nodup_identifiers_csharp_iff (builtins : Builtins) (calls : List Call) (name : String) :
    let g := (new builtins).runCalls calls
    (identifiers (g.emittedFields .csharp name)).Nodup ↔
      ∀ f ∈ g.declaredFields name, Dialect.csharp.isKeyword f.name = false ∧
        ∃ first ∈ f.name.toList.head?, Text.capitalForm first ≠ [first] := by
  intro g
  have hn : g.Named := (wellLinked_runCalls builtins calls).named
  rw [emittedFields_eq (a := name) .csharp hn rfl, addedMembers,
    nodup_identifiers_iff (accessors_uniqueMembers .csharp _ _).1,
    forall_accessor_ne_uniqueMembers_iff]
  exact forall₂_congr fun f _ => Dialect.capitalize_identifier_csharp_ne_iff f.name

/-- The field of a key that is a reserved word is escaped, and so is its property. -/
theorem not_nodup_identifiers_csharp :
    let g := (new ⟨"System", "string", "System"⟩).runCalls
      [.edit (.build (.object [("class", .bool true)]) "p" "Root")]
    ¬ (identifiers (g.emittedFields .csharp "Root")).Nodup := by
  decide +kernel

end ClassGraph

end ClassInference
