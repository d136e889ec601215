import ClassInference.Proofs.TypeRenames.Losses

/-!
# Fields that a fold raises

The base link of a class that is folded into its own base leads to that base. So the merge goes on
from there to the base above and merges the class below into it, and so on up to the top: each class
takes in what the one below it owns by then. No base link of these classes changes, but in the end
each of them owns the field names of all below it, as far as no enumeration is in between.
-/

namespace ClassInference

namespace ClassGraph

open Relation

variable {g k : ClassGraph} {a b old new target : String} {names met : List String}
  {spec : TypeSpec} {node origin other : ClassNode}

/-! ### Names that come new -/

/-- The names that a class owns when it has taken in fields of some names. -/
def enlarged (g : ClassGraph) (name : String) (names : List String) : List String :=
  g.ownNames name ++ if g.isEnumeration name then [] else names.filter (· ∉ g.ownNames name)

/-- A class gains nothing from fields of some names: it owns fields of all of them, or it is an
enumeration. -/
def Covers (g : ClassGraph) (name : String) (names : List String) : Prop :=
  g.isEnumeration name = true ∨ ∀ w ∈ names, w ∈ g.ownNames name

instance (g : ClassGraph) (name : String) (names : List String) : Decidable (g.Covers name names) :=
  inferInstanceAs (Decidable (_ ∨ _))

theorem enlarged_eq_self_iff : g.enlarged a names = g.ownNames a ↔ g.Covers a names := by
  unfold enlarged Covers
  cases g.isEnumeration a with
  | true => simp
  | false => simp [List.filter_eq_nil_iff]

theorem enlarged_of_find? (h : g.find? a = some node) (names : List String) :
    g.enlarged a names = node.content.fields.keys ++
      if node.content.isEnumeration then [] else names.filter (· ∉ node.content.fields.keys) := by
  rw [enlarged, ownNames_of_find? h, isEnumeration, h, Option.any_some]

theorem enlarged_congr (h : k.find? a = g.find? a) : k.enlarged a = g.enlarged a := by
  funext names
  unfold enlarged ownNames content? isEnumeration
  rw [h]

/-! ### Merging what derives from the target -/

theorem ownNames_mergeFrom_self (hm : target ∉ met) (ht : target ∈ g.names)
    (ho : other.content.fields.Keyed) :
    (g.mergeFrom met target other).ownNames target
      = g.enlarged target other.content.fields.keys := by
  obtain ⟨node, hf⟩ := exists_find?_of_mem_names ht
  rw [ownNames, content?_mergeFrom hm hf, Option.elim_some, Content.keys_merge ho,
    enlarged_of_find? hf]

/-- No link changes in a merge of a class that derives from the target: at the top the target would
have to become its own base. -/
theorem baseName?_mergeFrom_of_derives (hg : g.Acyclic) (hlink : other.base = some target) :
    (g.mergeFrom met target other).baseName? = g.baseName? := by
  fun_induction mergeFrom g met target other with
  | case1 => rfl
  | case2 => rfl
  | case3 => exact funext (keepsLinks_mergeContent _ _ _).baseName?
  | case4 => exact funext (keepsLinks_mergeContent _ _ _).baseName?
  | case5 g met target other hm node hf merged own theirs htheirs hown hne next hnext _ ih =>
      obtain rfl : theirs = target := Option.some.inj (htheirs.symm.trans hlink)
      have hk : g.KeepsLinks merged := keepsLinks_mergeContent g theirs other
      have hup : merged.Derives theirs own := hk.derives_iff.2 ((derives_iff_of_find? hf).2 hown)
      rw [ih (hk.acyclic hg) ((derives_iff_of_find? hnext).1 hup)]
      exact funext hk.baseName?
  | case6 g met target other hm node hf merged theirs htheirs hroot =>
      obtain rfl : theirs = target := Option.some.inj (htheirs.symm.trans hlink)
      have hrefused : merged.setBase theirs theirs = merged := by
        unfold setBase setBase?
        simp
      rw [hrefused]
      exact funext (keepsLinks_mergeContent _ _ _).baseName?
  | case7 => exact funext (keepsLinks_mergeContent _ _ _).baseName?

/-- All classes that the target leads to are there, and the merge has not been through any. -/
structure Ahead (g : ClassGraph) (met : List String) (target : String) : Prop where
  present : ∀ c, ReflTransGen g.Derives target c → c ∈ g.names
  not_met : ∀ c, ReflTransGen g.Derives target c → c ∉ met

theorem Ahead.up (h : g.Ahead met target) (hg : g.Acyclic) (hup : g.Derives target b)
    (other : ClassNode) : (g.modify target (·.mergeContent other)).Ahead (target :: met) b := by
  have hk := keepsLinks_mergeContent g target other
  have hback : ∀ {c}, ReflTransGen (g.modify target (·.mergeContent other)).Derives b c →
      ReflTransGen g.Derives b c :=
    fun hp => ReflTransGen.mono (fun _ _ => hk.derives_iff.1) _ _ hp
  constructor
  · intro c hp
    rw [names_modify]
    exact h.present c (.head hup (hback hp))
  · exact fun c hp => hg.not_met_of_derives hup h.not_met c (hback hp)

/-- A base that a class is merged into takes in what that class owns, then and afterwards. -/
theorem ownNames_mergeFrom_base (h : g.Ahead (target :: met) b) (hf : g.find? target = some node)
    (hkeyed : node.content.fields.Keyed) :
    (g.mergeFrom (target :: met) b node).ownNames b
      = g.enlarged b ((g.mergeFrom (target :: met) b node).ownNames target) := by
  have hbelow : (g.mergeFrom (target :: met) b node).ownNames target
      = node.content.fields.keys := by
    rw [← ownNames_of_find? hf]
    apply ownNames_eq_of_content?
    rw [content?, find?_mergeFrom_of_mem List.mem_cons_self, content?]
  rw [ownNames_mergeFrom_self (h.not_met b .refl) (h.present b .refl) hkeyed, hbelow]

/-- Each class that the target leads to takes in what the one below it owns by then. -/
theorem ownNames_mergeFrom_of_derives (hg : g.Acyclic) (hkeyed : g.FieldsKeyed)
    (hlink : other.base = some target) (hahead : g.Ahead met target)
    (ha : ReflTransGen g.Derives target a) (hab : g.Derives a b) :
    (g.mergeFrom met target other).ownNames b
      = g.enlarged b ((g.mergeFrom met target other).ownNames a) := by
  fun_induction mergeFrom g met target other with
  | case1 g met target other hm => exact absurd hm (hahead.not_met target .refl)
  | case2 g met target other hm hf =>
      exact absurd (hahead.present target .refl) (find?_eq_none_iff.1 hf)
  | case3 g met target other hm node hf merged theirs htheirs hown =>
      obtain rfl : theirs = target := Option.some.inj (htheirs.symm.trans hlink)
      exact absurd rfl (hg.ne ((derives_iff_of_find? hf).2 hown))
  | case4 g met target other hm node hf merged own theirs htheirs hown hne hnone =>
      obtain rfl : theirs = target := Option.some.inj (htheirs.symm.trans hlink)
      have hgone : theirs ∉ g.names := names_modify g theirs _ ▸ find?_eq_none_iff.1 hnone
      exact absurd (hahead.present theirs .refl) hgone
  | case5 g met target other hm node hf merged own theirs htheirs hown hne next hnext _ ih =>
      -- the next class to be merged is the target itself, as it stands in the graph now
      obtain rfl : theirs = target := Option.some.inj (htheirs.symm.trans hlink)
      have hup : g.Derives theirs own := (derives_iff_of_find? hf).2 hown
      have hk : g.KeepsLinks merged := keepsLinks_mergeContent g theirs other
      have hkeyed' : merged.FieldsKeyed :=
        hkeyed.modify (fun _ c hc => contentInvariant_keyed.merge c.content _ hc) theirs
      have hahead' : merged.Ahead (theirs :: met) own := hahead.up hg hup other
      have hsame : ∀ {c}, c ≠ theirs → merged.enlarged c = g.enlarged c := fun hc =>
        enlarged_congr (find?_modify_of_ne hc _)
      rcases ha.cases_head with rfl | ⟨c, hc, hp⟩
      · obtain rfl := hup.unique hab
        rw [ownNames_mergeFrom_base hahead' hnext (hkeyed' hnext), hsame hne]
      · obtain rfl := hup.unique hc
        have hlink' : next.base = some own :=
          (derives_iff_of_find? hnext).1 (hk.derives_iff.2 hup)
        have hp' : ReflTransGen merged.Derives own a :=
          ReflTransGen.mono (fun _ _ => hk.derives_iff.2) _ _ hp
        have hbelow : b ≠ theirs := by
          rintro rfl
          exact hg _ (.head' hup (hp.tail hab))
        rw [ih (hk.acyclic hg) hkeyed' hlink' hahead' hp' (hk.derives_iff.2 hab), hsame hbelow]
  | case6 g met target other hm node hf merged theirs htheirs hroot =>
      -- nothing lies above the target
      have hbase : g.baseName? target = none := by rw [baseName?, hf, Option.bind_some, hroot]
      exact absurd (TransGen.tail' ha hab) (not_transGen_of_baseName? hbase)
  | case7 g met target other hm node hf merged htheirs =>
      exact absurd (htheirs.symm.trans hlink) (by simp)

/-! ### Folding a class into its base -/

/-- In `k` the class `target` of `g` has taken in fields of some names, each class that it leads to
has taken in those that the one below it owns by then, and all other classes have kept theirs. -/
structure Raises (g k : ClassGraph) (target : String) (names : List String) : Prop where
  taken : k.ownNames target = g.enlarged target names
  raised : ∀ ⦃a b⦄, ReflTransGen g.Derives target a → g.Derives a b →
    k.ownNames b = g.enlarged b (k.ownNames a)
  kept : ∀ n ∈ k.names, ¬ ReflTransGen g.Derives target n → k.ownNames n = g.ownNames n

/-- A class that derives from the target is none of those that the target leads to. -/
theorem Acyclic.ne_of_reflTransGen (hg : g.Acyclic) (hbase : g.Derives old new)
    (hp : ReflTransGen g.Derives new a) : a ≠ old := by
  rintro rfl
  exact hg a (.head' hbase hp)

/-- What lies above the target is not touched when the class is taken out of the graph. -/
theorem Acyclic.reflTransGen_erase_iff (hg : g.Acyclic) (hbase : g.Derives old new) :
    ReflTransGen (g.erase old).Derives new a ↔ ReflTransGen g.Derives new a := by
  constructor
  · exact fun hp => ReflTransGen.mono (fun _ _ hd => (derives_erase.1 hd).2) _ _ hp
  · intro hp
    induction hp with
    | refl => exact .refl
    | tail hp hd ih => exact ih.tail (derives_erase.2 ⟨hg.ne_of_reflTransGen hbase hp, hd⟩)

theorem Acyclic.ahead_erase (hg : g.Acyclic) (hr : g.Resolved) (hbase : g.Derives old new) :
    (g.erase old).Ahead [] new := by
  constructor
  · intro c hp
    have hp' := (hg.reflTransGen_erase_iff hbase).1 hp
    refine mem_names_erase.2 ⟨hg.ne_of_reflTransGen hbase hp', ?_⟩
    rcases hp'.cases_tail with rfl | ⟨d, -, hd⟩
    · exact hr hbase
    · exact hr hd
  · exact fun _ _ => List.not_mem_nil

theorem ownNames_renameType_of_mem_names (hbuiltin : g.isBuiltin old = false)
    (hne : old ≠ spec.name) (horigin : g.find? old = some origin) (hnew : spec.name ∈ g.names) :
    (g.renameType old spec).ownNames = ((g.erase old).merge spec.name origin).ownNames := by
  rw [ownNames_renameType, moveClass_of_mem_names hbuiltin hne horigin hnew]
  funext n
  exact ownNames_eq_of_content? (congrFun (content?_redirectBases _ _ _) n)

/-- Folding a class into its base raises the names of its fields. -/
theorem raises_renameType (hg : g.Acyclic) (hr : g.Resolved) (hkeyed : g.FieldsKeyed)
    (hbuiltin : g.isBuiltin old = false) (hbase : g.Derives old spec.name) :
    g.Raises (g.renameType old spec) spec.name (g.ownNames old) := by
  obtain ⟨origin, horigin, hlink⟩ := hbase.exists_find?
  have hne : old ≠ spec.name := hg.ne hbase
  have hnew : spec.name ∈ g.names := hr hbase
  have hahead : (g.erase old).Ahead [] spec.name := hg.ahead_erase hr hbase
  have hsame : ∀ {c}, c ≠ old → (g.erase old).enlarged c = g.enlarged c := fun hc =>
    enlarged_congr (by rw [find?_erase, if_neg hc])
  have hown := ownNames_renameType_of_mem_names hbuiltin hne horigin hnew
  constructor
  case taken =>
    rw [hown, merge, ownNames_mergeFrom_self List.not_mem_nil (hahead.present _ .refl)
      (hkeyed horigin), hsame hne.symm, ownNames_of_find? horigin]
  case raised =>
    intro a b ha hab
    have haold : a ≠ old := hg.ne_of_reflTransGen hbase ha
    have hbold : b ≠ old := hg.ne_of_reflTransGen hbase (ha.tail hab)
    rw [hown, merge, ownNames_mergeFrom_of_derives (acyclic_erase hg) (hkeyed.erase old) hlink
      hahead ((hg.reflTransGen_erase_iff hbase).2 ha) (derives_erase.2 ⟨haold, hab⟩), hsame hbold]
  case kept =>
    intro n hn hp
    have hnold : n ≠ old := by
      rintro rfl
      rw [names_renameType] at hn
      exact not_mem_names_moveClass hbuiltin hne horigin hn
    rw [hown, merge]
    apply ownNames_eq_of_content?
    rw [content?, find?_mergeFrom_of_not_reflTransGen, find?_erase, if_neg hnold, content?]
    exact mt (hg.reflTransGen_erase_iff hbase).1 hp

theorem baseName?_renameType_of_derives (hg : g.Acyclic) (hw : g.WellLinked)
    (hbuiltin : g.isBuiltin old = false) (hbase : g.Derives old spec.name) :
    (g.renameType old spec).baseName? spec.name = g.baseName? spec.name := by
  obtain ⟨origin, horigin, hlink⟩ := hbase.exists_find?
  have hne : old ≠ spec.name := hg.ne hbase
  have hmerged : ((g.erase old).merge spec.name origin).baseName? = (g.erase old).baseName? :=
    baseName?_mergeFrom_of_derives (acyclic_erase hg) hlink
  have hnamed : ((g.erase old).merge spec.name origin).Named :=
    named_mergeFrom _ _ _ (hw.named.erase old)
  have hsame : ∀ {b}, ((g.erase old).merge spec.name origin).Derives spec.name b ↔
      g.Derives spec.name b := by
    intro b
    rw [Derives, hmerged]
    exact derives_erase.trans (and_iff_right hne.symm)
  ext b
  change (g.renameType old spec).Derives spec.name b ↔ g.Derives spec.name b
  rw [derives_renameType_iff, moveClass_of_mem_names hbuiltin hne horigin (hw.resolved hbase),
    derives_redirectBases hnamed, hsame, hsame]
  constructor
  · rintro (⟨-, hself, -⟩ | ⟨hd, -⟩)
    · exact absurd rfl hself
    · exact hd
  · exact fun hd => .inr ⟨hd, hg.ne_of_reflTransGen hbase (.single hd)⟩

/-- Folding `old` into its base `new` raises no name: the base of `new` covers what `new` owns then,
and the base of each class above covers what that class owns. -/
def RaisesNothing (g : ClassGraph) (old new : String) : Prop :=
  (∀ b ∈ g.baseName? new, g.Covers b (g.enlarged new (g.ownNames old))) ∧
    ∀ a ∈ g.ancestors new, ∀ b ∈ g.baseName? a, g.Covers b (g.ownNames a)

instance (g : ClassGraph) (old new : String) : Decidable (g.RaisesNothing old new) :=
  inferInstanceAs (Decidable (_ ∧ _))

/-- The classes above the target keep their names exactly if none is raised. -/
theorem Raises.forall_ancestors_iff (h : g.Raises k new (g.ownNames old)) (hg : g.Acyclic) :
    (∀ n ∈ g.ancestors new, k.ownNames n = g.ownNames n) ↔ g.RaisesNothing old new := by
  have habove : ∀ {n}, TransGen g.Derives new n → n ∈ g.ancestors new := fun {n} hp =>
    mem_ancestors_iff.2 ⟨fun he => hg new (he ▸ hp), hp⟩
  constructor
  · intro hkept
    constructor
    · intro b hb
      rw [← enlarged_eq_self_iff, ← h.taken, ← h.raised .refl hb]
      exact hkept b (habove (.single hb))
    · intro a ha b hab
      have hp := (mem_ancestors_iff.1 ha).2
      rw [← enlarged_eq_self_iff, ← hkept a ha, ← h.raised hp.to_reflTransGen hab]
      exact hkept b (habove (hp.tail hab))
  · rintro ⟨hbase, hcovers⟩ n hn
    -- up the chain, from the base of the target on
    have hp := (mem_ancestors_iff.1 hn).2
    clear hn
    induction hp with
    | single hb =>
        rw [h.raised .refl hb, h.taken]
        exact enlarged_eq_self_iff.2 (hbase _ hb)
    | @tail a b hp hab ih =>
        rw [h.raised hp.to_reflTransGen hab, ih]
        exact enlarged_eq_self_iff.2 (hcovers a (habove hp) b hab)

/-- All classes of `g` but `old` are still there in `k`, all but `new` too own fields of the same
names, and `new` has the same base. -/
structure KeepsRest (g k : ClassGraph) (old new : String) : Prop where
  mem_names : ∀ n ∈ g.names, n ≠ old → n ∈ k.names
  ownNames : ∀ n ∈ g.names, n ≠ old → n ≠ new → k.ownNames n = g.ownNames n
  base : k.baseName? new = g.baseName? new

theorem mem_names_renameType_of_mem_names (hbuiltin : g.isBuiltin old = false)
    (hold : old ∈ g.names) (hnew : spec.name ∈ g.names) (hne : old ≠ spec.name) :
    a ∈ (g.renameType old spec).names ↔ a ∈ g.names ∧ a ≠ old := by
  obtain ⟨origin, horigin⟩ := exists_find?_of_mem_names hold
  rw [names_renameType, moveClass_of_mem_names hbuiltin hne horigin hnew, names_folded,
    List.mem_filter, bne_iff_ne]

/-- Folding a class into its base leaves the rest of the hierarchy alone exactly if it raises
nothing. -/
theorem keepsRest_renameType_iff (hg : g.Acyclic) (hw : g.WellLinked) (hkeyed : g.FieldsKeyed)
    (hbuiltin : g.isBuiltin old = false) (hbase : g.Derives old spec.name) :
    g.KeepsRest (g.renameType old spec) old spec.name ↔ g.RaisesNothing old spec.name := by
  have hraises := raises_renameType hg hw.resolved hkeyed hbuiltin hbase
  have hmem : ∀ {n}, n ∈ (g.renameType old spec).names ↔ n ∈ g.names ∧ n ≠ old :=
    mem_names_renameType_of_mem_names hbuiltin hbase.mem_names (hw.resolved hbase) (hg.ne hbase)
  rw [← hraises.forall_ancestors_iff hg]
  constructor
  · intro h n hn
    obtain ⟨hne, hp⟩ := mem_ancestors_iff.1 hn
    exact h.ownNames n (mem_names_of_mem_ancestors hw.resolved hn)
      (hg.ne_of_reflTransGen hbase hp.to_reflTransGen) hne
  · intro h
    constructor
    case mem_names => exact fun n hn hnold => hmem.2 ⟨hn, hnold⟩
    case ownNames =>
      intro n hn hnold hnnew
      by_cases habove : n ∈ g.ancestors spec.name
      · exact h n habove
      · apply hraises.kept n (hmem.2 ⟨hn, hnold⟩)
        rw [← mem_lineage_iff, List.mem_cons, not_or]
        exact ⟨hnnew, habove⟩
    case base => exact baseName?_renameType_of_derives hg hw hbuiltin hbase

/-- In a graph that calls lead to, with acyclic inheritance, folding a class into its base leaves
the base of that one as it is, and all other classes too exactly if it raises nothing: each class
above covers what the one below it owns by then. -/
theorem keepsRest_runCalls_iff {builtins : Builtins} {calls : List Call}
    (hrun : (ClassGraph.new builtins).runCalls calls = g) (hg : g.Acyclic)
    (hbuiltin : g.isBuiltin old = false) (hbase : g.Derives old spec.name) :
    (g.renameType old spec).baseName? spec.name = g.baseName? spec.name ∧
      (g.KeepsRest (g.renameType old spec) old spec.name ↔ g.RaisesNothing old spec.name) := by
  have hkeyed : g.FieldsKeyed := hrun ▸ fieldsKeyed_runCalls builtins calls
  have hlinked : g.WellLinked := hrun ▸ wellLinked_runCalls builtins calls
  exact ⟨baseName?_renameType_of_derives hg hlinked hbuiltin hbase,
    keepsRest_renameType_iff hg hlinked hkeyed hbuiltin hbase⟩

/-- As `lineCalls`, and `G` has been seen with the fields of the classes below it. -/
def coveredCalls : List Call :=
  lineCalls ++ [.edit (.build (.object [("f", .ofNat 1), ("t", .ofNat 1)]) "p" "G")]

/-- A base that owns the fields already does not change. -/
theorem keepsRest_coveredCalls :
    let g := (ClassGraph.new ⟨"java.lang", "String", "java"⟩).runCalls coveredCalls
    g.Derives "T" "F" ∧ g.Derives "F" "G" ∧
      g.KeepsRest (g.renameType "T" ⟨"F", false⟩) "T" "F" := by
  intro g
  have hg : g.Acyclic := by decide +kernel
  have hbuiltin : g.isBuiltin "T" = false := by decide +kernel
  have hbase : g.Derives "T" (TypeSpec.name ⟨"F", false⟩) := by decide +kernel
  have habove : g.Derives "F" "G" := by decide +kernel
  have hcovered : g.RaisesNothing "T" "F" := by decide +kernel
  exact ⟨hbase, habove, (keepsRest_runCalls_iff rfl hg hbuiltin hbase).2.2 hcovered⟩

/-- A class that is folded into its base gives its field to the base above, and so does the base. -/
theorem not_keepsRest_lineCalls :
    let g := (ClassGraph.new ⟨"java.lang", "String", "java"⟩).runCalls lineCalls
    (g.Acyclic ∧ g.isBuiltin "T" = false ∧ g.Derives "T" "F" ∧ g.Derives "F" "G") ∧
      (g.ownNames "G" = ["g"] ∧ (g.renameType "T" ⟨"F", false⟩).ownNames "G" = ["g", "f", "t"]) ∧
      ¬ g.KeepsRest (g.renameType "T" ⟨"F", false⟩) "T" "F" := by
  intro g
  have hbefore : g.ownNames "G" = ["g"] := by decide +kernel
  have hafter : (g.renameType "T" ⟨"F", false⟩).ownNames "G" = ["g", "f", "t"] := by
    decide +kernel
  have hpresent : "G" ∈ g.names := by decide +kernel
  refine ⟨by decide +kernel, ⟨hbefore, hafter⟩, fun h => ?_⟩
  have hkept := h.ownNames "G" hpresent (by decide) (by decide)
  rw [hbefore, hafter] at hkept
  exact absurd hkept (by decide)

end ClassGraph

end ClassInference
