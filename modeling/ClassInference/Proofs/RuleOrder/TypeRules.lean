import ClassInference.Proofs.RuleOrder.Retyping

/-!
# The order of type rules

A type rule moves a class and replaces a type. Run one after the other, type rules move the classes
first and replace all types then, if they do not get into the way of each other; and both parts come
to the same in any order.
-/

namespace ClassInference

namespace ClassGraph

variable {g g' : ClassGraph} {n : String} {rules : List (String × TypeSpec)}
  {e e' : String × TypeSpec}

/-! ### Classes that agree -/

/-- The classes that come to where the rule sends its own one, and those that the rule touches. -/
def around (g : ClassGraph) (rules : List (String × TypeSpec)) (e : String × TypeSpec) :
    List String :=
  g.names.filter (fun n => g.destination rules n = e.2.name) ++ g.touched rules e

theorem mem_around_iff :
    n ∈ g.around rules e ↔
      (n ∈ g.names ∧ g.destination rules n = e.2.name) ∨ n ∈ g.touched rules e := by
  simp [around]

theorem AgreeOn.mono {S T : List String} (h : g.AgreeOn T) (hsub : ∀ n ∈ g.names, n ∈ S → n ∈ T) :
    g.AgreeOn S := by
  intro a ha b hb c d hc hd
  exact h a (hsub a (mem_names_of_find? hc) ha) b (hsub b (mem_names_of_find? hd) hb) c d hc hd

theorem ShowsTypesOf.of_content {S : List String} {c d : ClassNode} (h : g.ShowsTypesOf S c)
    (hcontent : d.content = c.content) : g.ShowsTypesOf S d := by
  intro key f hf
  rw [ClassNode.field?, hcontent] at hf
  exact h key f hf

/-- What has arrived at the target of the first rule shows types that classes around another rule of
this target have shown. -/
theorem MovesApart.showsTypesOf_arrived (h : g.MovesApart (e :: rules)) (hg : g.Fresh)
    (he' : e' ∈ rules) (hmoves : ¬ g.Stays e.1 e.2.name) (hmoves' : ¬ g.Stays e'.1 e'.2.name)
    (hmeet : e.2.name = e'.2.name) (hagree : g.AgreeOn (g.around (e :: rules) e')) {c : ClassNode}
    (hc : (g.moveClass e.1 e.2.name).find? e.2.name = some c) :
    g.ShowsTypesOf (g.around (e :: rules) e') c := by
  obtain ⟨hbuiltin, hne, origin, horigin⟩ := not_stays_iff.1 hmoves
  have hmem : e.2.name ∈ g.touched (e :: rules) e' := by
    rw [hmeet]
    exact List.mem_cons_of_mem _ List.mem_cons_self
  obtain ⟨hkeeps, -⟩ := h.keepsBases_of_meet List.mem_cons_self (List.mem_cons_of_mem _ he')
    (h.ne_of_mem he') hmoves hmoves' (List.mem_cons_of_mem _ List.mem_cons_self) hmem
  have hfirst : e.1 ∈ g.around (e :: rules) e' := mem_around_iff.2
    (.inl ⟨mem_names_of_find? horigin, (destination_cons_self hbuiltin).trans hmeet⟩)
  have hshown := showsTypesOf_of_mem hfirst horigin
  rw [h.find?_moveClass hmoves hkeeps horigin, if_neg (Ne.symm hne), if_pos rfl,
    Option.some.injEq] at hc
  rw [← hc]
  apply ShowsTypesOf.of_content _ ClassNode.content_redirect
  cases htarget : g.find? e.2.name with
  | none => exact hshown
  | some target =>
      have hstood := showsTypesOf_of_mem (mem_around_iff.2 (.inr hmem)) htarget
      exact hagree.showsTypesOf_mergeContent (hg htarget).fresh (hg horigin).fresh hstood hshown

/-- The classes around a rule show no types after the first move that classes around it have not
shown before. -/
theorem MovesApart.showsTypesOf_moveClass (h : g.MovesApart (e :: rules)) (hg : g.Fresh)
    (he' : e' ∈ rules) (hmoves' : ¬ g.Stays e'.1 e'.2.name)
    (hagree : g.AgreeOn (g.around (e :: rules) e')) {c : ClassNode}
    (hn : n ∈ (g.moveClass e.1 e.2.name).around rules e')
    (hc : (g.moveClass e.1 e.2.name).find? n = some c) :
    g.ShowsTypesOf (g.around (e :: rules) e') c := by
  rw [mem_around_iff] at hn
  have htouched := fun htouched => h.mem_touched_of_moveClass hg he' hmoves' (n := n) htouched
  by_cases hstays : g.Stays e.1 e.2.name
  · rw [hstays.moveClass_eq] at hn hc htouched
    apply showsTypesOf_of_mem _ hc
    rw [mem_around_iff, ← h.destination_of_stays hstays (mem_names_of_find? hc)]
    exact hn.imp_right htouched
  by_cases hnx : n = e.2.name
  · subst hnx
    apply h.showsTypesOf_arrived hg he' hstays hmoves' _ hagree hc
    rcases hn with ⟨-, hmeet⟩ | hn
    · rwa [h.destination_moved] at hmeet
    · have hown : e.2.name ∈ g.touched (e :: rules) e := List.mem_cons_of_mem _ List.mem_cons_self
      exact (h.eq_or_eq_of_meet hstays he' hmoves' hown (htouched hn)).2.resolve_left
        (h.target_ne_origin he')
  · obtain ⟨hne, hmem⟩ := ne_and_mem_of_moved hstays (mem_names_of_find? hc) hnx
    rw [destination_moveClass_of_ne hne hnx] at hn
    have hnot : n ∉ g.touched (e :: rules) e := by
      rcases hn with ⟨-, hmeet⟩ | hn
      · exact h.not_mem_touched_of_meet hstays he' hmoves' hmem hne hnx hmeet
      · intro hown
        rcases (h.eq_or_eq_of_meet hstays he' hmoves' hown (htouched hn)).2 with rfl | rfl
        · exact h.origin_not_mem_touched hstays he' hmoves' hown
        · exact h.target_not_mem_touched hstays he' hmoves' hnx hown
    rw [(h.footprint List.mem_cons_self hstays).find?_moveClass hstays hnot] at hc
    obtain ⟨d, hd, rfl⟩ := Option.map_eq_some_iff.1 hc
    have hshown : n ∈ g.around (e :: rules) e' :=
      mem_around_iff.2 ((hn.imp_left fun hmeet => ⟨hmem, hmeet.2⟩).imp_right htouched)
    exact (showsTypesOf_of_mem hshown hd).of_content ClassNode.content_redirect

/-- The classes around a rule agree on their types after the first move too. -/
theorem MovesApart.agreeOn_moveClass (h : g.MovesApart (e :: rules)) (hg : g.Fresh)
    (he' : e' ∈ rules) (hmoves' : ¬ g.Stays e'.1 e'.2.name)
    (hagree : g.AgreeOn (g.around (e :: rules) e')) :
    (g.moveClass e.1 e.2.name).AgreeOn ((g.moveClass e.1 e.2.name).around rules e') := by
  intro a ha b hb c d hc hd key f f'
  exact hagree.typeRef_eq (h.showsTypesOf_moveClass hg he' hmoves' hagree ha hc)
    (h.showsTypesOf_moveClass hg he' hmoves' hagree hb hd)

/-! ### Moves before types -/

/-- Apply type rules, one after the other. -/
def renameAll (g : ClassGraph) (rules : List (String × TypeSpec)) : ClassGraph :=
  rules.foldl (fun acc e => acc.renameType e.1 e.2) g

theorem renameType_eq (g : ClassGraph) (old : String) (target : TypeSpec) :
    g.renameType old target
      = (g.moveClass old target.name).mapNodes
          (·.retype (g.resolveType old) (g.resolveType target.name) target.isArray) := by
  have hread := resolveType_congr (g.builtins_moveClass old target.name)
  rw [renameType, hread]

theorem Alike.renameAll (h : g.Alike g') (hg : g.FieldsKeyed)
    (rules : List (String × TypeSpec)) : (g.renameAll rules).Alike (g'.renameAll rules) := by
  refine (Alike.foldl ?_ h hg).1
  intro k k' e _ hk hkeyed
  exact ⟨hk.renameType hkeyed e.1 e.2, hkeyed.edit (.renameType e.1 e.2)⟩

/-- A rule after a replacement of types: the class moves, and the rule's type is replaced with the
others. -/
theorem alike_renameType_retypeBy (hg : g.Fresh) (h : g.MovesApart (e :: rules))
    (done : List (String × TypeSpec))
    (htargets : ∀ e' ∈ done, g.resolveType e'.2.name ≠ g.resolveType e.1)
    (htypes : ¬ g.Stays e.1 e.2.name → (∀ e' ∈ done, ∀ p, g.resolveType e'.1 ≠ .primitive p) ∨
      g.AgreeOn (g.around (e :: rules) e)) :
    ((g.retypeBy (retyping g.resolveType done)).renameType e.1 e.2).Alike
      ((g.moveClass e.1 e.2.name).retypeBy (retyping g.resolveType (done ++ [e]))) := by
  have hmoved : ((g.retypeBy (retyping g.resolveType done)).moveClass e.1 e.2.name).Alike
      ((g.moveClass e.1 e.2.name).retypeBy (retyping g.resolveType done)) := by
    apply alike_retypeBy_moveClass hg
    intro hmoves
    refine ⟨_, h.footprint List.mem_cons_self hmoves, (htypes hmoves).imp ?_ ?_⟩
    · intro hprimitive p
      rw [retyping, Option.map_eq_none_iff, List.find?_eq_none]
      intro e' he'
      simpa using hprimitive e' he' p
    · exact fun hagree => hagree.mono fun n _ hn => mem_around_iff.2 (.inr hn)
  have hbuiltins := builtins_moveClass (g.retypeBy (retyping g.resolveType done)) e.1 e.2.name
  have hkept : ((g.moveClass e.1 e.2.name).retypeBy (retyping g.resolveType done)).mapNodes
      (·.retype (g.resolveType e.1) (g.resolveType e.2.name) e.2.isArray)
        = (g.moveClass e.1 e.2.name).retypeBy (retyping g.resolveType (done ++ [e])) := by
    rw [retypeBy, retypeBy, mapNodes_mapNodes]
    exact congrArg _ (funext (ClassNode.retype_retypeBy htargets))
  rw [renameType_eq, ← hkept]
  exact hmoved.mapNodes fun _ _ hc => hc.retype _ _ _

/-- Type rules, one after the other, move the classes and replace all types then. -/
theorem alike_renameAll_retypeBy (hg : g.Fresh) (h : g.MovesApart rules)
    (done : List (String × TypeSpec)) (hdistinct : ((done ++ rules).map Prod.fst).Nodup)
    (htargets : (done ++ rules).Pairwise fun e e' => g.resolveType e.2.name ≠ g.resolveType e'.1)
    (htypes : ∀ e ∈ rules, ¬ g.Stays e.1 e.2.name →
      (∀ e' ∈ done ++ rules, e' ≠ e → ∀ p, g.resolveType e'.1 ≠ .primitive p) ∨
        g.AgreeOn (g.around rules e)) :
    ((g.retypeBy (retyping g.resolveType done)).renameAll rules).Alike
      ((g.moveAll rules).retypeBy (retyping g.resolveType (done ++ rules))) := by
  induction rules generalizing g done with
  | nil =>
      rw [List.append_nil]
      exact .refl _
  | cons e rules ih =>
      have hread : (g.moveClass e.1 e.2.name).resolveType = g.resolveType :=
        resolveType_congr (g.builtins_moveClass e.1 e.2.name)
      have hassoc : done ++ e :: rules = (done ++ [e]) ++ rules := by
        rw [List.append_assoc, List.singleton_append]
      have hdone : ∀ e' ∈ done, e' ≠ e := by
        rw [List.map_append, List.nodup_append] at hdistinct
        rintro e' he' rfl
        exact hdistinct.2.2 _ (List.mem_map_of_mem he') _ List.mem_cons_self rfl
      have hstep := alike_renameType_retypeBy hg h done
        (fun e' he' => (List.pairwise_append.1 htargets).2.2 e' he' e List.mem_cons_self)
        fun hmoves => (htypes e List.mem_cons_self hmoves).imp_left fun hprimitive e' he' =>
          hprimitive e' (List.mem_append_left _ he') (hdone e' he')
      have hkeyed : ((g.retypeBy (retyping g.resolveType done)).renameType e.1 e.2).FieldsKeyed :=
        (hg.fieldsKeyed.retypeBy _).edit (.renameType e.1 e.2)
      refine (hstep.renameAll hkeyed rules).trans ?_
      rw [hassoc] at hdistinct htargets htypes ⊢
      have hrest := ih (hg.moveClass _ _) (h.moveClass hg) (done ++ [e]) hdistinct
      rw [hread] at hrest
      apply hrest htargets
      intro e' he' hmoves'
      rw [h.stays_iff he'] at hmoves'
      exact (htypes e' (List.mem_cons_of_mem _ he') hmoves').imp_right
        (h.agreeOn_moveClass hg he' hmoves')

end ClassGraph

end ClassInference
