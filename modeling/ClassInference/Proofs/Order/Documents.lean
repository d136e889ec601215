import ClassInference.Proofs.Documents.Sightings
import ClassInference.Proofs.Order.Alike

/-!
# Documents in any order

Two sightings can be taken note of in either order: what comes out differs in the numbers of new
nodes and in orders alone. So it is with whole documents, because which of their objects are closed
is settled by the enumerations, and no document makes or unmakes one.
-/

namespace ClassInference

open Json (Value)

namespace ClassNode

/-- Take note of a member of an object, if it is a member that was sighted. -/
def see (c : ClassNode) : Option (String × Value) → ClassNode
  | none => c
  | some (key, v) => c.observe key v (Naming.typeName key)

theorem Alike.see {c c' : ClassNode} (h : c.Alike c') (m : Option (String × Value)) :
    (c.see m).Alike (c'.see m) := by
  cases m with
  | none => exact h
  | some m => exact h.observe m.1 m.2 _

theorem alike_observe_comm (c : ClassNode) (m m' : String × Value) :
    ((c.observe m.1 m.2 (Naming.typeName m.1)).observe m'.1 m'.2 (Naming.typeName m'.1)).Alike
      ((c.observe m'.1 m'.2 (Naming.typeName m'.1)).observe m.1 m.2 (Naming.typeName m.1)) := by
  refine .renumber c.id ?_
  simp only [observe, mapContent]
  cases c.content with
  | record t => exact .record (Content.alike_note_comm t m.1 m'.1 m.2 m'.2 Naming.typeName)
  | enumeration constants => exact .enumeration constants

theorem alike_see_comm (c : ClassNode) (m m' : Option (String × Value)) :
    ((c.see m).see m').Alike ((c.see m').see m) := by
  cases m with
  | none => exact .refl _
  | some m =>
      cases m' with
      | none => exact .refl _
      | some m' => exact c.alike_observe_comm m m'

end ClassNode

namespace ClassGraph

variable {g g' : ClassGraph}

theorem Alike.isEnumeration (h : g.Alike g') : g'.isEnumeration = g.isEnumeration := by
  funext name
  unfold ClassGraph.isEnumeration
  rcases (h.find? name).eq_or_exists with ⟨hc, hc'⟩ | ⟨c, c', hc, hc', hcc⟩
  · rw [hc, hc']
  · rw [hc, hc', Option.any_some, Option.any_some, hcc.content.isEnumeration]

theorem Alike.see (h : g.Alike g') (package : String) (s : Sighting) :
    (g.see package s).Alike (g'.see package s) := by
  unfold ClassGraph.see
  split
  · exact h.ensure package s.className
  · exact (h.ensure package s.className).modify (fun _ _ hc => hc.observe _ _ _) s.className

theorem Alike.seeAll (h : g.Alike g') (package : String) (sightings : List Sighting) :
    (g.seeAll package sightings).Alike (g'.seeAll package sightings) := by
  induction sightings generalizing g g' with
  | nil => exact h
  | cons s rest ih => exact ih (h.see package s)

theorem Alike.build (h : g.Alike g') (document : Value) (package name : String) :
    (g.build document package name).Alike (g'.build document package name) := by
  rw [build_eq_seeAll_open, build_eq_seeAll_open, h.isEnumeration]
  exact h.seeAll package _

/-! ### Sightings in any order -/

theorem find?_see (g : ClassGraph) (package : String) (s : Sighting) (n : String) :
    (g.see package s).find? n
      = if n = s.className then
          some (((g.find? n).getD (.new g.nextId package n (!g.isReserved package))).see s.member?)
        else g.find? n := by
  obtain ⟨className, member?⟩ := s
  cases member? with
  | none =>
      rw [see, find?_ensure]
      by_cases hn : n = className <;> simp [hn, ClassNode.see]
  | some m =>
      rw [see, find?_modify, find?_ensure]
      by_cases hn : n = className <;> simp [hn, ClassNode.see]

theorem isReserved_see (g : ClassGraph) (package : String) (s : Sighting) (p : String) :
    (g.see package s).isReserved p = g.isReserved p := by
  rw [isReserved, builtins_see, isReserved]

/-- Two sightings are taken note of in either order. -/
theorem alike_see_comm (g : ClassGraph) (package : String) (s s' : Sighting) :
    ((g.see package s).see package s').Alike ((g.see package s').see package s) := by
  apply alike_of_find?
  · simp only [builtins_see]
  · intro n
    simp only [find?_see, isReserved_see]
    have hold : ∀ id id' generate, ((g.find? n).getD (.new id package n generate)).Alike
        ((g.find? n).getD (.new id' package n generate)) := by
      intro id id' generate
      cases g.find? n with
      | none => exact ClassNode.alike_new ..
      | some c => exact .refl c
    by_cases hn : n = s.className
    · by_cases hn' : n = s'.className
      · simp only [if_pos hn, if_pos hn', Option.getD_some]
        exact .some (ClassNode.alike_see_comm _ _ _)
      · -- the class of the one sighting may have another number after the other sighting
        simp only [if_pos hn, if_neg hn']
        exact .some ((hold ..).see _)
    · by_cases hn' : n = s'.className
      · simp only [if_neg hn, if_pos hn']
        exact .some ((hold ..).see _)
      · simp only [if_neg hn, if_neg hn']
        exact .refl ClassNode.Alike.refl _

theorem alike_seeAll_of_perm {sightings sightings' : List Sighting}
    (h : sightings.Perm sightings') (g : ClassGraph) (package : String) :
    (g.seeAll package sightings).Alike (g.seeAll package sightings') := by
  induction h generalizing g with
  | nil => exact .refl g
  | cons s _ ih => exact ih (g.see package s)
  | swap s s' rest => exact (g.alike_see_comm package s' s).seeAll package rest
  | trans _ _ ih ih' => exact (ih g).trans (ih' g)

/-! ### Documents in any order -/

/-- Build from documents, one after the other. -/
def buildAll (g : ClassGraph) (package name : String) (documents : List Value) : ClassGraph :=
  documents.foldl (fun acc document => acc.build document package name) g

theorem buildAll_eq_seeAll (g : ClassGraph) (package name : String) (documents : List Value) :
    g.buildAll package name documents
      = g.seeAll package (documents.flatMap (Sighting.ofOpenValue g.isEnumeration name)) := by
  induction documents generalizing g with
  | nil => rfl
  | cons document rest ih =>
      have hbuilt : (g.build document package name).isEnumeration = g.isEnumeration := by
        rw [build_eq_seeAll_open, isEnumeration_seeAll]
      change (g.build document package name).buildAll package name rest = _
      rw [ih, hbuilt, build_eq_seeAll_open, List.flatMap_cons, seeAll_append]

theorem Alike.buildAll (h : g.Alike g') (package name : String) (documents : List Value) :
    (g.buildAll package name documents).Alike (g'.buildAll package name documents) := by
  rw [buildAll_eq_seeAll, buildAll_eq_seeAll, h.isEnumeration]
  exact h.seeAll package _

theorem FieldsKeyed.buildAll (hg : g.FieldsKeyed) (package name : String)
    (documents : List Value) : (g.buildAll package name documents).FieldsKeyed :=
  List.foldlRecOn (motive := FieldsKeyed) _ _ hg fun _ hk document _ =>
    EveryContent.build contentInvariant_keyed.over hk document package name

/-- Documents are modelled in any order. -/
theorem alike_buildAll_of_perm {documents documents' : List Value}
    (h : documents.Perm documents') (g : ClassGraph) (package name : String) :
    (g.buildAll package name documents).Alike (g.buildAll package name documents') := by
  rw [buildAll_eq_seeAll, buildAll_eq_seeAll]
  exact alike_seeAll_of_perm (h.flatMap_right _) g package

end ClassGraph

end ClassInference
