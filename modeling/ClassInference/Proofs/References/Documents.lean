import ClassInference.Proofs.Fields.Merged
import ClassInference.Proofs.Order.Documents

/-!
# References to types

A field that holds objects refers to the class of its key. Building from a document descends into
the objects right after it has noted them, so that the class is there when the document is built.
-/

namespace ClassInference

open Json (Value)

/-! ### Fields and contents -/

/-- The type of the field, if it has one by name, has the property. -/
def Field.RefersWithin (P : String → Prop) (f : Field) : Prop := ∀ n, f.typeRef = .named n → P n

/-- All fields of the table refer within the property. -/
def OrderedTable.RefersWithin (P : String → Prop) (t : OrderedTable Field) : Prop :=
  ∀ ⦃key f⦄, t.get? key = some f → f.RefersWithin P

variable {P P' : String → Prop}

namespace Field

variable {f other : Field}

theorem RefersWithin.observe (hf : f.RefersWithin P) {v : Value} {nested : String}
    (hnested : Observation.hasObject v = true → P nested) :
    (f.observe v nested).RefersWithin P := by
  intro n h
  unfold RefersWithin typeRef at hf
  unfold Field.observe typeRef at h
  cases hm : f.mapped with
  | some t =>
      simp only [hm] at hf h
      exact hf n h
  | none =>
      cases hn : f.nested with
      | some m =>
          simp only [hm, hn] at hf
          simp only [hm, hn] at h
          exact hf n h
      | none =>
          cases hv : Observation.hasObject v with
          | true =>
              simp [hm, hn, hv] at h
              exact h ▸ hnested hv
          | false => simp [hm, hn, hv] at h

/-- The type of a merged field is that of one of the two. -/
theorem RefersWithin.merge (hf : f.RefersWithin P) (ho : other.RefersWithin P) :
    (f.merge other).RefersWithin P := by
  intro n h
  have htype : f.typeRef = .named n ∨ other.typeRef = .named n := by
    unfold Field.merge typeRef at *
    cases hm : f.mapped <;> cases hom : other.mapped <;> cases hn : f.nested <;>
      cases hon : other.nested <;> simp_all
  exact htype.elim (hf n) (ho n)

end Field

namespace OrderedTable

variable {t u : OrderedTable Field}

theorem refersWithin_empty : (∅ : OrderedTable Field).RefersWithin P := by
  intro key f h
  simp at h

theorem RefersWithin.mono (ht : t.RefersWithin P) (hP : ∀ n, P n → P' n) : t.RefersWithin P' :=
  fun _ _ h n hn => hP n (ht h n hn)

theorem RefersWithin.map (ht : t.RefersWithin P) {F : String → Field → Field}
    (hF : ∀ key f, f.RefersWithin P → (F key f).RefersWithin P') : (t.map F).RefersWithin P' := by
  intro key f h
  rw [get?_map] at h
  obtain ⟨f', hf', rfl⟩ := Option.map_eq_some_iff.1 h
  exact hF key f' (ht hf')

theorem RefersWithin.modify (ht : t.RefersWithin P) (key : String) {F : Field → Field}
    (hF : ∀ f, f.RefersWithin P → (F f).RefersWithin P) : (t.modify key F).RefersWithin P := by
  refine ht.map fun k f hf => ?_
  split
  · exact hF f hf
  · exact hf

theorem RefersWithin.erase (ht : t.RefersWithin P) (key : String) :
    (t.erase key).RefersWithin P := by
  intro k f h
  rw [get?_erase] at h
  split at h
  · simp at h
  · exact ht h

theorem RefersWithin.note (ht : t.RefersWithin P) (key : String) {v : Value} {nested : String}
    (hnested : Observation.hasObject v = true → P nested) :
    (Content.note t key v nested).RefersWithin P := by
  intro k f h
  rw [Content.get?_note] at h
  split at h
  · rw [Option.some.injEq] at h
    subst h
    apply Field.RefersWithin.observe _ hnested
    cases hf : t.get? key with
    | none =>
        intro n hn
        simp [Field.new, Field.typeRef] at hn
    | some own => exact ht hf
  · exact ht h

theorem RefersWithin.addField (ht : t.RefersWithin P) {f : Field} (hf : f.RefersWithin P) :
    (Content.addField t f).RefersWithin P := by
  intro key f' h
  rw [Content.addField, get?_combine] at h
  split at h
  · rw [Option.some.injEq] at h
    subst h
    cases hown : t.get? f.wireName with
    | none => exact hf
    | some own => exact (ht hown).merge hf
  · exact ht h

end OrderedTable

open OrderedTable

theorem Content.refersWithin_merge {c other : Content} (hc : c.fields.RefersWithin P)
    (ho : other.fields.RefersWithin P) : (c.merge other).fields.RefersWithin P := by
  cases c with
  | enumeration constants => cases other <;> exact refersWithin_empty
  | record fields =>
      cases other with
      | enumeration constants => exact hc
      | record others =>
          refine List.foldlRecOn (motive := RefersWithin P) _ _ hc fun t ht f hf => ?_
          obtain ⟨key, hkey⟩ := mem_values_iff.1 hf
          exact ht.addField (ho hkey)

theorem Content.refersWithin_mapFields {c : Content} {F : OrderedTable Field → OrderedTable Field}
    (hc : c.fields.RefersWithin P) (hF : ∀ t, t.RefersWithin P → (F t).RefersWithin P') :
    (c.mapFields F).fields.RefersWithin P' := by
  cases c with
  | record fields => exact hF fields hc
  | enumeration constants => exact refersWithin_empty

namespace ClassGraph

/-- All fields of the graph refer within the property. -/
def RefersWithin (P : String → Prop) (g : ClassGraph) : Prop :=
  g.EveryContent (·.fields.RefersWithin P)

variable {g : ClassGraph} {package name old : String} {target : TypeSpec}

theorem mergeInvariant_refersWithin :
    MergeInvariant (·.fields.RefersWithin P) (·.fields.RefersWithin P) where
  admits _ hc := hc
  merge _ _ hc ho := Content.refersWithin_merge hc ho

theorem RefersWithin.mono (hg : g.RefersWithin P) (hP : ∀ n, P n → P' n) : g.RefersWithin P' :=
  fun _ _ hc => (hg hc).mono hP

theorem RefersWithin.of_alike {g' : ClassGraph} (hg : g.RefersWithin P) (h : g.Alike g') :
    g'.RefersWithin P := by
  intro name c' hc' key f' hf' n hn
  obtain ⟨c, hc, hcc⟩ := h.symm.exists_find? hc'
  rcases (hcc.content.fields key).eq_or_exists with ⟨hnone, -⟩ | ⟨a, f, ha, hf, hff⟩
  · rw [hnone] at hf'
    simp at hf'
  · rw [ha, Option.some.injEq] at hf'
    subst hf'
    exact hg hc hf n (hff.typeRef.trans hn)

/-! ### Documents -/

theorem RefersWithin.see (hg : g.RefersWithin P) {s : Sighting}
    (hs : ∀ key v, s.member? = some (key, v) → Observation.hasObject v = true →
      P (Naming.typeName key)) : (g.see package s).RefersWithin P := by
  have hensured : (g.ensure package s.className).RefersWithin P := hg.ensure refersWithin_empty
  unfold ClassGraph.see
  split
  · exact hensured
  · rename_i key v hmember
    refine hensured.modify (fun _ c hc => ?_) s.className
    exact Content.refersWithin_mapFields hc fun t ht => ht.note key (hs key v hmember)

theorem RefersWithin.seeAll {sightings : List Sighting} (hg : g.RefersWithin P)
    (hs : ∀ s ∈ sightings, ∀ key v, s.member? = some (key, v) → Observation.hasObject v = true →
      P (Naming.typeName key)) : (g.seeAll package sightings).RefersWithin P :=
  List.foldlRecOn (motive := RefersWithin P) _ _ hg fun _ hk s hmem => hk.see (hs s hmem)

end ClassGraph

namespace Sighting

/-- Where a value with objects is sighted under a key, the class of the key is sighted too. -/
def Grounded (sightings : List Sighting) : Prop :=
  ∀ s ∈ sightings, ∀ key v, s.member? = some (key, v) → Observation.hasObject v = true →
    ∃ s' ∈ sightings, s'.className = Naming.typeName key

theorem Grounded.append {sightings more : List Sighting} (h : Grounded sightings)
    (hmore : Grounded more) : Grounded (sightings ++ more) := by
  intro s hs key v hmember hobject
  rcases List.mem_append.1 hs with hs | hs
  · obtain ⟨s', hs', hname⟩ := h s hs key v hmember hobject
    exact ⟨s', List.mem_append_left _ hs', hname⟩
  · obtain ⟨s', hs', hname⟩ := hmore s hs key v hmember hobject
    exact ⟨s', List.mem_append_right _ hs', hname⟩

theorem Grounded.cons {sightings : List Sighting} {s : Sighting} (h : Grounded sightings)
    (hs : ∀ key v, s.member? = some (key, v) → Observation.hasObject v = true →
      ∃ s' ∈ sightings, s'.className = Naming.typeName key) : Grounded (s :: sightings) := by
  intro t ht key v hmember hobject
  have hfound : ∃ s' ∈ sightings, s'.className = Naming.typeName key := by
    rcases List.mem_cons.1 ht with rfl | ht
    · exact hs key v hmember hobject
    · exact h t ht key v hmember hobject
  obtain ⟨s', hs', hname⟩ := hfound
  exact ⟨s', List.mem_cons_of_mem _ hs', hname⟩

variable {closed : String → Bool}

mutual

/-- The objects of a value are sighted under the name they belong to. -/
theorem exists_className_ofOpenValue (className : String) : ∀ v : Value,
    Observation.hasObject v = true → ∃ s ∈ ofOpenValue closed className v, s.className = className
  | .object members => by
      intro _
      rw [ofOpenValue]
      exact ⟨_, List.mem_cons_self, rfl⟩
  | .array items => by
      rw [Observation.hasObject, ofOpenValue]
      exact exists_className_ofOpenItems className items
  | .null | .bool _ | .number _ | .string _ => by simp [Observation.hasObject]

theorem exists_className_ofOpenItems (className : String) : ∀ items : List Value,
    Observation.hasObjectInItems items = true →
      ∃ s ∈ ofOpenItems closed className items, s.className = className
  | [] => by simp [Observation.hasObjectInItems]
  | v :: vs => by
      rw [Observation.hasObjectInItems, Bool.or_eq_true, ofOpenItems]
      rintro (h | h)
      · obtain ⟨s, hs, hname⟩ := exists_className_ofOpenValue className v h
        exact ⟨s, List.mem_append_left _ hs, hname⟩
      · obtain ⟨s, hs, hname⟩ := exists_className_ofOpenItems className vs h
        exact ⟨s, List.mem_append_right _ hs, hname⟩

end

mutual

theorem grounded_ofOpenValue (className : String) : ∀ v : Value,
    Grounded (ofOpenValue closed className v)
  | .object members => by
      rw [ofOpenValue]
      refine Grounded.cons ?_ (by simp)
      split
      · simp [Grounded]
      · exact grounded_ofOpenMembers className members
  | .array items => by
      rw [ofOpenValue]
      exact grounded_ofOpenItems className items
  | .null | .bool _ | .number _ | .string _ => by simp [ofOpenValue, Grounded]

theorem grounded_ofOpenItems (className : String) : ∀ items : List Value,
    Grounded (ofOpenItems closed className items)
  | [] => by simp [ofOpenItems, Grounded]
  | v :: vs => by
      rw [ofOpenItems]
      exact (grounded_ofOpenValue className v).append (grounded_ofOpenItems className vs)

theorem grounded_ofOpenMembers (className : String) : ∀ members : List (String × Value),
    Grounded (ofOpenMembers closed className members)
  | [] => by simp [ofOpenMembers, Grounded]
  | (key, v) :: rest => by
      rw [ofOpenMembers]
      refine Grounded.cons ((grounded_ofOpenValue _ v).append (grounded_ofOpenMembers _ rest)) ?_
      intro key' v' hmember hobject
      rw [Option.some.injEq, Prod.mk.injEq] at hmember
      obtain ⟨rfl, rfl⟩ := hmember
      obtain ⟨s, hs, hname⟩ := exists_className_ofOpenValue (Naming.typeName key) v hobject
      exact ⟨s, List.mem_append_left _ hs, hname⟩

end

end Sighting

namespace ClassGraph

open Sighting

variable {g k : ClassGraph} {package name old n : String} {target : TypeSpec}

/-- What documents show refers to classes of the graph, by names of types. -/
theorem refersWithin_buildAll (hg : g.RefersWithin fun _ => False) (package name : String)
    (documents : List Value) :
    (g.buildAll package name documents).RefersWithin fun n =>
      n ∈ (g.buildAll package name documents).names ∧ ∃ key, n = Naming.typeName key := by
  rw [buildAll_eq_seeAll]
  refine (hg.mono fun _ h => h.elim).seeAll fun s hs key v hmember hobject => ?_
  obtain ⟨document, hdocument, hs⟩ := List.mem_flatMap.1 hs
  obtain ⟨s', hs', hname⟩ := grounded_ofOpenValue name document s hs key v hmember hobject
  have hmem : s' ∈ documents.flatMap (ofOpenValue g.isEnumeration name) :=
    List.mem_flatMap.2 ⟨document, hdocument, hs'⟩
  exact ⟨mem_names_seeAll.2 (.inl ⟨s', hmem, hname.symm⟩), key, rfl⟩

end ClassGraph

end ClassInference
