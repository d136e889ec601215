import ClassInference.Proofs.References.Rules
import ClassInference.Proofs.RuleOrder.Subtypes
import ClassInference.Proofs.RuleOrder.TypeRules

/-!
# The order of the rules in a rule set

The rules of a category are applied one after the other, and each of them sees what the earlier ones
have left. In a graph of documents the order does not matter if the subtype rules ask for no cycle,
and if no type rule gets into the way of another one. A rule that finds nothing may be left out of
account, as long as no other rule brings about what it speaks of.
-/

namespace ClassInference

/-- The entries in the opposite order. -/
def OrderedTable.reverse {α : Type*} (t : OrderedTable α) : OrderedTable α where
  entries := t.entries.reverse
  nodup_keys := by
    rw [List.map_reverse, List.nodup_reverse]
    exact t.nodup_keys

/-- A node whose fields stay as they are stays as it is. -/
theorem ClassNode.mapFields_eq_self {c : ClassNode} {F : Field → Field}
    (h : ∀ key f, c.field? key = some f → F f = f) :
    c.mapContent (·.mapFields (·.map fun _ f => F f)) = c := by
  have hfields : (c.content.fields.map fun _ f => F f) = c.content.fields := by
    apply OrderedTable.ext_get?
    · simp only [OrderedTable.keys_map]
    · intro key
      rw [OrderedTable.get?_map]
      cases hf : c.content.fields.get? key with
      | none => rfl
      | some f => rw [Option.map_some, h key f hf]
  obtain ⟨id, package, name, content, base, generate⟩ := c
  cases content with
  | enumeration constants => rfl
  | record fields =>
      change fields.map _ = fields at hfields
      simp only [mapContent, Content.mapFields, hfields]

theorem OrderedTable.perm_reverse {α : Type*} (t : OrderedTable α) :
    t.entries.Perm t.reverse.entries :=
  t.entries.reverse_perm.symm

namespace ClassGraph

variable {g : ClassGraph} {x : String} {rules rules' : List (String × TypeSpec)}
  {e : String × TypeSpec}

/-! ### Rules that find nothing -/

/-- Neither a class nor the type of a field has the name. -/
structure Absent (g : ClassGraph) (x : String) : Prop where
  unnamed : x ∉ g.names
  spelled : g.resolveType x = .named x
  unreferred : g.RefersWithin (· ≠ x)

theorem mapNodes_eq_self {f : ClassNode → ClassNode}
    (hself : ∀ n c, g.find? n = some c → f c = c) : g.mapNodes f = g := by
  refine ext_find? rfl rfl rfl rfl (names_mapNodes g f) fun n => ?_
  rw [find?_mapNodes]
  cases hc : g.find? n with
  | none => rfl
  | some c => rw [Option.map_some, hself n c hc]

theorem Absent.renameType_eq_self (h : g.Absent e.1) : g.renameType e.1 e.2 = g := by
  rw [renameType_eq, moveClass_of_stays (.inr (.inr h.unnamed))]
  apply mapNodes_eq_self
  intro n c hc
  apply ClassNode.mapFields_eq_self
  intro key f hf
  have hne : f.typeRef ≠ g.resolveType e.1 := by
    rw [h.spelled]
    exact fun htype => h.unreferred hc hf e.1 htype rfl
  rw [Field.retype, Field.retype?, if_neg hne, Option.getD_none]

theorem mem_names_of_moveClass {old new n : String} (hn : n ∈ (g.moveClass old new).names) :
    n ∈ g.names ∨ n = new := by
  by_cases hnew : n = new
  · exact .inr hnew
  · left
    by_cases hstays : g.Stays old new
    · rwa [hstays.moveClass_eq] at hn
    · obtain ⟨hbuiltin, hne, origin, horigin⟩ := not_stays_iff.1 hstays
      by_cases hold : n = old
      · rw [hold]
        exact mem_names_of_find? horigin
      · exact (mem_names_moveClass_of_ne hold hnew).1 hn

theorem Absent.renameType (h : g.Absent x) (hx : g.resolveType e.2.name ≠ .named x) :
    (g.renameType e.1 e.2).Absent x := by
  have hbuiltins := g.builtins_renameType e.1 e.2
  have hmoved : (g.moveClass e.1 e.2.name).RefersWithin (· ≠ x) :=
    EveryContent.moveClass mergeInvariant_refersWithin h.unreferred e.1 e.2.name
  constructor
  · rw [names_renameType]
    intro hmem
    rcases mem_names_of_moveClass hmem with hmem | rfl
    · exact h.unnamed hmem
    · exact hx h.spelled
  · rw [resolveType_congr hbuiltins]
    exact h.spelled
  · intro name c hc
    rw [find?_renameType] at hc
    obtain ⟨d, hd, rfl⟩ := Option.map_eq_some_iff.1 hc
    refine Content.refersWithin_mapFields (hmoved hd) fun t ht => ht.map fun _ f hf n hn => ?_
    rw [Field.typeRef_retype] at hn
    split at hn
    · rintro rfl
      exact hx hn
    · exact hf n hn

/-- Rules that find nothing can be left out, if no other rule brings about what they speak of. -/
theorem renameAll_filter {idle : String × TypeSpec → Bool}
    (habsent : ∀ e ∈ rules, idle e = true → g.Absent e.1)
    (htargets : ∀ e ∈ rules, idle e = false → ∀ e' ∈ rules, idle e' = true →
      g.resolveType e.2.name ≠ .named e'.1) :
    g.renameAll rules = g.renameAll (rules.filter (!idle ·)) := by
  induction rules generalizing g with
  | nil => rfl
  | cons e rules ih =>
      cases hidle : idle e with
      | true =>
          rw [List.filter_cons_of_neg (by simp [hidle])]
          have hself := (habsent e List.mem_cons_self hidle).renameType_eq_self
          change (g.renameType e.1 e.2).renameAll rules = _
          rw [hself]
          apply ih
          · exact fun e' he' => habsent e' (List.mem_cons_of_mem _ he')
          · exact fun e' he' hacts e'' he'' => htargets e' (List.mem_cons_of_mem _ he') hacts e''
              (List.mem_cons_of_mem _ he'')
      | false =>
          rw [List.filter_cons_of_pos (by simp [hidle])]
          apply ih
          · intro e' he' hidle'
            apply (habsent e' (List.mem_cons_of_mem _ he') hidle').renameType
            exact htargets e List.mem_cons_self hidle e' (List.mem_cons_of_mem _ he') hidle'
          · intro e' he' hacts e'' he''
            rw [resolveType_congr (g.builtins_renameType e.1 e.2)]
            exact htargets e' (List.mem_cons_of_mem _ he') hacts e'' (List.mem_cons_of_mem _ he'')

/-! ### Type rules in any order -/

/-- The types that fields name are those of classes of the graph. -/
def RefersToNodes (g : ClassGraph) : Prop := g.RefersWithin (· ∈ g.names)

/-- Rules for the name find nothing in the graph. -/
def Idle (g : ClassGraph) (name : String) : Prop :=
  name ∉ g.names ∧ g.resolveType name = .named name

instance (g : ClassGraph) (name : String) : Decidable (g.Idle name) :=
  inferInstanceAs (Decidable (_ ∧ _))

/-- The rules that find something. -/
def acting (g : ClassGraph) (rules : List (String × TypeSpec)) : List (String × TypeSpec) :=
  rules.filter fun e => !decide (g.Idle e.1)

theorem mem_acting_iff : e ∈ g.acting rules ↔ e ∈ rules ∧ ¬ g.Idle e.1 := by
  simp [acting]

/-- No two type rules get into the way of each other. -/
structure TypeRulesApart (g : ClassGraph) (rules : List (String × TypeSpec)) : Prop where
  /-- Two names of one type are replaced by the same type. -/
  origins : ∀ e ∈ rules, ∀ e' ∈ rules, g.resolveType e.1 = g.resolveType e'.1 →
    g.resolveType e.2.name = g.resolveType e'.2.name ∧ e.2.isArray = e'.2.isArray
  /-- No rule that finds something puts in what another one takes out. -/
  targets : ∀ e ∈ rules, ¬ g.Idle e.1 → ∀ e' ∈ rules, e ≠ e' →
    g.resolveType e.2.name ≠ g.resolveType e'.1
  /-- Of two rules that move classes both leave the bases as they are, or they touch different
  classes. -/
  bases : ∀ e ∈ rules, ∀ e' ∈ rules, e ≠ e' → ¬ g.Stays e.1 e.2.name → ¬ g.Stays e'.1 e'.2.name →
    (g.KeepsBases rules e.1 ∧ g.KeepsBases rules e'.1) ∨
      ∀ n ∈ g.touched rules e, n ∉ g.touched rules e'
  /-- Classes that come together under a free name are of one package. -/
  package : ∀ a ∈ g.names, ∀ b ∈ g.names, g.destination rules a = g.destination rules b →
    g.destination rules a ∉ g.names →
      (g.find? a).map (·.package) = (g.find? b).map (·.package)
  /-- Where one rule moves a class, the other one takes out no primitive, or the classes around the
  first one agree on their types. -/
  types : ∀ e ∈ rules, ∀ e' ∈ rules, e ≠ e' → ¬ g.Stays e.1 e.2.name →
    (∀ p, g.resolveType e'.1 ≠ .primitive p) ∨ g.AgreeOn (g.around rules e)

/-- A single rule is in nobody's way. -/
theorem typeRulesApart_singleton (g : ClassGraph) (e : String × TypeSpec) :
    g.TypeRulesApart [e] := by
  have honly : ∀ e₁ ∈ [e], ∀ e₂ ∈ [e], e₁ = e₂ := by
    intro e₁ h₁ e₂ h₂
    rw [List.mem_singleton.1 h₁, List.mem_singleton.1 h₂]
  have hmoved : ∀ a ∈ g.names, g.destination [e] a ∉ g.names → a = e.1 := by
    intro a ha hfree
    by_contra hne
    rw [destination_cons_of_ne hne, destination_eq_self (fun _ he => absurd he List.not_mem_nil)]
      at hfree
    exact hfree ha
  constructor
  · intro e₁ h₁ e₂ h₂ _
    rw [honly e₁ h₁ e₂ h₂]
    exact ⟨rfl, rfl⟩
  · exact fun e₁ h₁ _ e₂ h₂ hne => absurd (honly e₁ h₁ e₂ h₂) hne
  · exact fun e₁ h₁ e₂ h₂ hne => absurd (honly e₁ h₁ e₂ h₂) hne
  · intro a ha b hb hmeet hfree
    rw [hmoved a ha hfree, hmoved b hb (hmeet ▸ hfree)]
  · exact fun e₁ h₁ e₂ h₂ hne => absurd (honly e₁ h₁ e₂ h₂) hne

theorem lookup_acting (g : ClassGraph) (rules : List (String × TypeSpec)) (n : String) :
    (g.acting rules).lookup n = if g.Idle n then none else rules.lookup n := by
  induction rules with
  | nil => simp [acting]
  | cons e rules ih =>
      rw [acting] at ih ⊢
      by_cases hn : n = e.1
      · subst hn
        by_cases hidle : g.Idle e.1
        · rw [List.filter_cons_of_neg (by simp [hidle]), ih]
          simp only [hidle, if_true]
        · rw [List.filter_cons_of_pos (by simp [hidle]), List.lookup_cons, List.lookup_cons,
            if_neg hidle]
          simp
      · have hne : (n == e.1) = false := by simpa using hn
        rw [List.lookup_cons, hne, List.filter_cons]
        split
        · rw [List.lookup_cons, hne, ih]
        · exact ih

theorem destination_acting (h : ¬ g.Idle x) :
    g.destination (g.acting rules) x = g.destination rules x := by
  rw [destination, destination, lookup_acting, if_neg h]

theorem destination_acting_of_mem (h : x ∈ g.names) :
    g.destination (g.acting rules) x = g.destination rules x :=
  destination_acting fun hidle => hidle.1 h

theorem destination_acting_of_idle (h : g.Idle x) : g.destination (g.acting rules) x = x := by
  rw [destination, lookup_acting, if_pos h]
  split <;> rfl

theorem TypeRulesApart.perm (h : g.TypeRulesApart rules) (hdistinct : (rules.map Prod.fst).Nodup)
    (hperm : rules.Perm rules') : g.TypeRulesApart rules' := by
  have hsame : g.destination rules = g.destination rules' := destination_perm hdistinct hperm
  have hkeeps : ∀ {a}, g.KeepsBases rules a → g.KeepsBases rules' a :=
    KeepsBases.congr rfl rfl hsame.symm
  have haround : g.around rules' = g.around rules := by
    funext e
    rw [around, around, ← hsame, touched_congr hsame]
  constructor
  · exact fun e he e' he' => h.origins e (hperm.mem_iff.2 he) e' (hperm.mem_iff.2 he')
  · exact fun e he hacts e' he' =>
      h.targets e (hperm.mem_iff.2 he) hacts e' (hperm.mem_iff.2 he')
  · intro e he e' he' hne hmoves hmoves'
    rw [← touched_congr hsame]
    exact (h.bases e (hperm.mem_iff.2 he) e' (hperm.mem_iff.2 he') hne hmoves hmoves').imp_left
      (And.imp hkeeps hkeeps)
  · rw [← hsame]
    exact h.package
  · rw [haround]
    exact fun e he e' he' => h.types e (hperm.mem_iff.2 he) e' (hperm.mem_iff.2 he')

/-- No class goes where a rule that finds nothing would find one. -/
theorem TypeRulesApart.destination_ne_of_idle (h : g.TypeRulesApart rules) (hx : x ∈ g.names)
    {p : String} (hp : g.Idle p) (hrule : ∃ spec, (p, spec) ∈ rules) :
    g.destination rules x ≠ p := by
  obtain ⟨spec', hmem'⟩ := hrule
  have hxp : x ≠ p := fun hsame => hp.1 (hsame ▸ hx)
  rcases g.destination_eq_or rules x with hstays | ⟨spec, hmem, hgoes⟩
  · rwa [hstays]
  · have hne : (x, spec) ≠ (p, spec') := fun hsame => hxp (congrArg Prod.fst hsame)
    rw [hgoes]
    rintro rfl
    exact h.targets _ hmem (fun hidle => hidle.1 hx) _ hmem' hne rfl

/-- Bases that are kept are kept by the rules that find something. -/
theorem TypeRulesApart.keepsBases_acting (h : g.TypeRulesApart rules) (hx : x ∈ g.names)
    (hkeeps : g.KeepsBases rules x) : g.KeepsBases (g.acting rules) x := by
  intro b hb hab hmeet hmoves
  rw [destination_acting_of_mem hx] at hmeet hmoves ⊢
  rw [destination_acting_of_mem hb] at hmeet
  apply (hkeeps b hb hab hmeet hmoves).imp_right
  rintro ⟨hsame, hfar⟩
  refine ⟨hsame, fun p hp => ?_⟩
  by_cases hidle : g.Idle p
  · rw [destination_acting_of_idle hidle]
    by_cases hrule : ∃ spec, (p, spec) ∈ rules
    · exact (h.destination_ne_of_idle hx hidle hrule).symm
    · have hstays : g.destination rules p = p := by
        apply destination_eq_self
        rintro ⟨_, spec⟩ he rfl
        exact hrule ⟨spec, he⟩
      rw [← hstays]
      exact hfar p hp
  · rw [destination_acting hidle]
    exact hfar p hp

theorem TypeRulesApart.mem_touched_of_acting (h : g.TypeRulesApart rules) (he : e.1 ∈ g.names)
    (hx : x ∈ g.touched (g.acting rules) e) : x ∈ g.touched rules e := by
  rw [mem_touched_iff] at hx ⊢
  exact hx.imp_right (.imp_right (.imp_left (mt (h.keepsBases_acting he))))

theorem TypeRulesApart.mem_around_of_acting (h : g.TypeRulesApart rules) (he : e.1 ∈ g.names)
    (hmem : x ∈ g.names) (hx : x ∈ g.around (g.acting rules) e) : x ∈ g.around rules e := by
  rw [mem_around_iff, destination_acting_of_mem hmem] at hx
  exact mem_around_iff.2 (hx.imp_right (h.mem_touched_of_acting he))

theorem TypeRulesApart.movesApart (h : g.TypeRulesApart rules)
    (hdistinct : (rules.map Prod.fst).Nodup) : g.MovesApart (g.acting rules) := by
  constructor
  · exact hdistinct.sublist (List.filter_sublist.map _)
  · intro e he e' he' hne hsame
    obtain ⟨hmem, hacts⟩ := mem_acting_iff.1 he
    exact h.targets e hmem hacts e' (mem_acting_iff.1 he').1 hne (congrArg g.resolveType hsame)
  · intro e he e' he' hne hmoves hmoves'
    have hold := mem_names_of_moves hmoves
    have hold' := mem_names_of_moves hmoves'
    apply (h.bases e (mem_acting_iff.1 he).1 e' (mem_acting_iff.1 he').1 hne hmoves hmoves').imp
    · exact And.imp (h.keepsBases_acting hold) (h.keepsBases_acting hold')
    · exact fun hapart n hn hn' =>
        hapart n (h.mem_touched_of_acting hold hn) (h.mem_touched_of_acting hold' hn')
  · intro a b c d hc hd hmeet hfree
    rw [destination_acting_of_mem (mem_names_of_find? hc)] at hmeet hfree
    rw [destination_acting_of_mem (mem_names_of_find? hd)] at hmeet
    have hsame := h.package a (mem_names_of_find? hc) b (mem_names_of_find? hd) hmeet hfree
    rwa [hc, hd, Option.map_some, Option.map_some, Option.some.injEq] at hsame

theorem retypeBy_retyping_nil (resolve : String → TypeRef) (g : ClassGraph) :
    g.retypeBy (retyping resolve []) = g := by
  apply mapNodes_eq_self
  intro n c _
  apply ClassNode.mapFields_eq_self
  intro key f _
  exact Field.retypeBy_of_none rfl

/-- The type rules together move the classes of the graph and replace all types then. -/
theorem TypeRulesApart.alike_renameAll (h : g.TypeRulesApart rules) (hg : g.Fresh)
    (hnames : g.RefersToNodes) (hdistinct : (rules.map Prod.fst).Nodup) :
    (g.renameAll rules).Alike
      ((g.moveAll (g.acting rules)).retypeBy (retyping g.resolveType (g.acting rules))) := by
  have hidle : g.renameAll rules = g.renameAll (g.acting rules) := by
    apply renameAll_filter
    · intro e _ hidle
      obtain ⟨hunnamed, hspelled⟩ := of_decide_eq_true hidle
      refine ⟨hunnamed, hspelled, hnames.mono fun n hn => ?_⟩
      rintro rfl
      exact hunnamed hn
    · intro e he hacts e' he' hidle'
      have hidle' := of_decide_eq_true hidle'
      rw [← hidle'.2]
      apply h.targets e he (of_decide_eq_false hacts) e' he'
      rintro rfl
      exact of_decide_eq_false hacts hidle'
  have hpairs : (g.acting rules).Pairwise fun e e' =>
      g.resolveType e.2.name ≠ g.resolveType e'.1 := by
    have hkeys : (g.acting rules).Pairwise fun e e' => e.1 ≠ e'.1 :=
      List.pairwise_map.1 (h.movesApart hdistinct).distinct
    apply hkeys.imp_of_mem
    intro e e' he he' hne
    obtain ⟨hmem, hacts⟩ := mem_acting_iff.1 he
    exact h.targets e hmem hacts e' (mem_acting_iff.1 he').1 fun hsame => hne (congrArg _ hsame)
  have htypes : ∀ e ∈ g.acting rules, ¬ g.Stays e.1 e.2.name →
      (∀ e' ∈ [] ++ g.acting rules, e' ≠ e → ∀ p, g.resolveType e'.1 ≠ .primitive p) ∨
        g.AgreeOn (g.around (g.acting rules) e) := by
    intro e he hmoves
    by_cases hagree : g.AgreeOn (g.around rules e)
    · right
      exact hagree.mono fun n hn => h.mem_around_of_acting (mem_names_of_moves hmoves) hn
    · left
      intro e' he' hne
      rw [List.nil_append] at he'
      exact (h.types e (mem_acting_iff.1 he).1 e' (mem_acting_iff.1 he').1 hne.symm
        hmoves).resolve_right hagree
  have hapart := h.movesApart hdistinct
  have hrun := alike_renameAll_retypeBy hg hapart [] hapart.distinct hpairs htypes
  rw [retypeBy_retyping_nil, List.nil_append, ← hidle] at hrun
  exact hrun

/-- Type rules that do not get into the way of each other come to the same in any order. -/
theorem TypeRulesApart.alike_renameAll_of_perm (h : g.TypeRulesApart rules) (hg : g.Fresh)
    (hnames : g.RefersToNodes) (hdistinct : (rules.map Prod.fst).Nodup)
    (hperm : rules.Perm rules') : (g.renameAll rules).Alike (g.renameAll rules') := by
  have hdistinct' : (rules'.map Prod.fst).Nodup := (hperm.map Prod.fst).nodup hdistinct
  have hacting : (g.acting rules).Perm (g.acting rules') := hperm.filter _
  have horigins : ∀ e ∈ g.acting rules, ∀ e' ∈ g.acting rules,
      g.resolveType e.1 = g.resolveType e'.1 →
        g.resolveType e.2.name = g.resolveType e'.2.name ∧ e.2.isArray = e'.2.isArray :=
    fun e he e' he' => h.origins e (mem_acting_iff.1 he).1 e' (mem_acting_iff.1 he').1
  calc Alike (g.renameAll rules)
        ((g.moveAll (g.acting rules)).retypeBy (retyping g.resolveType (g.acting rules))) :=
        h.alike_renameAll hg hnames hdistinct
    Alike _ ((g.moveAll (g.acting rules')).retypeBy (retyping g.resolveType (g.acting rules))) :=
        ((h.movesApart hdistinct).alike_moveAll_of_perm hg hacting).retypeBy _
    _ = (g.moveAll (g.acting rules')).retypeBy (retyping g.resolveType (g.acting rules')) := by
        rw [retyping_perm hacting horigins]
    Alike _ (g.renameAll rules') :=
        ((h.perm hdistinct hperm).alike_renameAll hg hnames hdistinct').symm

/-! ### Rule sets -/

theorem RefersToNodes.build (hg : g.RefersToNodes) (document : Json.Value)
    (package name : String) : (g.build document package name).RefersToNodes := by
  have hkept : g.RefersWithin (· ∈ (g.build document package name).names) := by
    rw [build_eq_seeAll_open]
    exact hg.mono fun n hn => mem_names_seeAll.2 (.inr hn)
  rw [build_eq_seeAll_open] at hkept
  rw [RefersToNodes, build_eq_seeAll_open]
  refine hkept.seeAll fun s hs key v hmember hobject => ?_
  obtain ⟨s', hs', hname⟩ := Sighting.grounded_ofOpenValue name document s hs key v hmember hobject
  exact mem_names_seeAll.2 (.inl ⟨s', hs', hname.symm⟩)

theorem refersToNodes_documents (builtins : Builtins) (samples : List Sample) :
    ((new builtins).runCalls (samples.map Sample.call)).RefersToNodes := by
  rw [runCalls, List.foldl_map]
  refine List.foldlRecOn (motive := RefersToNodes) _ _ ?_ fun k hk s _ => ?_
  · exact every_new fun _ => OrderedTable.refersWithin_empty
  · exact hk.build s.document s.package s.root

theorem names_applySubtypes (g : ClassGraph) (r : RuleSet) :
    (g.applySubtypes r).names = g.names :=
  List.foldlRecOn (motive := fun k : ClassGraph => k.names = g.names) _ _ rfl fun _ hk _ _ =>
    names_setBase.trans hk

theorem Fresh.applySubtypes (hg : g.Fresh) (r : RuleSet) : (g.applySubtypes r).Fresh := by
  refine List.foldlRecOn (motive := Fresh) _ _ hg fun k hk e _ => ?_
  have hnodes : (k.setBase e.1 e.2).Every k.FreshNode :=
    Every.setBase hk (fun _ _ _ hc => ⟨hc.named, hc.fresh, hc.generate⟩) e.1 e.2
  exact .of_builtins (k.builtins_edit (.setBase e.1 e.2)) hnodes

theorem RefersToNodes.applySubtypes (hg : g.RefersToNodes) (r : RuleSet) :
    (g.applySubtypes r).RefersToNodes := by
  rw [RefersToNodes, names_applySubtypes]
  exact List.foldlRecOn (motive := RefersWithin (· ∈ g.names)) _ _ hg fun _ hk e _ =>
    Every.setBase hk (fun _ _ _ hc => hc) e.1 e.2

/-- In a graph of documents, subtype rules come to the same in any order if the links that they ask
for close no cycle, and type rules do if they do not get into the way of each other. -/
theorem alike_applyRules_of_perm (builtins : Builtins) (samples : List Sample) (r : RuleSet) :
    let g := (new builtins).runCalls (samples.map Sample.call)
    (∀ subtypes : OrderedTable String, r.subtypes.entries.Perm subtypes.entries →
      g.AsksNoCycle r.subtypes.entries →
        (g.applyRules r).Alike (g.applyRules { r with subtypes := subtypes })) ∧
    ∀ typeRenames : OrderedTable TypeSpec, r.typeRenames.entries.Perm typeRenames.entries →
      (g.applySubtypes r).TypeRulesApart r.typeRenames.entries →
        (g.applyRules r).Alike (g.applyRules { r with typeRenames := typeRenames }) := by
  intro g
  constructor
  · intro subtypes hperm hcycle
    have hbase : ∀ n, g.baseName? n = none := by
      intro n
      have hplain := ((plain_new builtins).runCalls samples).1
      rw [baseName?]
      cases hc : g.find? n with
      | none => rfl
      | some c => exact (hplain hc).base
    have hsame : g.applySubtypes r = g.applySubtypes { r with subtypes := subtypes } :=
      applySubtypes_eq_of_perm hbase hcycle hperm
    rw [applyRules, applyRules, ← hsame]
    exact .refl _
  · intro typeRenames hperm hapart
    have hfresh : (g.applySubtypes r).Fresh := (fresh_documents builtins samples).applySubtypes r
    have hnames := (refersToNodes_documents builtins samples).applySubtypes r
    have hrenamed := hapart.alike_renameAll_of_perm hfresh hnames r.typeRenames.nodup_keys hperm
    have hkeyed : ((g.applySubtypes r).renameAll r.typeRenames.entries).FieldsKeyed :=
      List.foldlRecOn (motive := FieldsKeyed) _ _ hfresh.fieldsKeyed fun _ hk e _ =>
        hk.edit (.renameType e.1 e.2)
    -- what remains of the rule set are its rules for fields
    exact hrenamed.applyRules hkeyed { r with subtypes := ∅, typeRenames := ∅ }

/-! ### Orders that differ -/

/-- Two classes with fields of one key, two without fields, and one of another package. -/
def letterSamples : List Sample :=
  [⟨.object [("a", .object [("x", .bool true)]), ("b", .object [("x", .string "s")]),
      ("p", .object []), ("q", .object [])], "m", "R"⟩,
    ⟨.object [("c", .object [])], "n", "S"⟩]

/-- Two classes of one base become one, a class that is not there would become one of the two, and
apart from them a class leaves its base to another one. -/
def apartRules : RuleSet :=
  (((((((∅ : RuleSet).assignSubtype "P" "R").assignSubtype "Q" "R").assignSubtype "A" "S").mapType
    "P" ⟨"T", false⟩).mapType "Q" ⟨"T", true⟩).mapType "Z" ⟨"P", false⟩).mapType "A" ⟨"B", false⟩

theorem alike_applyRules_apartRules :
    let g := (new Dialect.java.builtins).runCalls (letterSamples.map Sample.call)
    let r := apartRules
    r.subtypes.entries.Perm r.subtypes.reverse.entries ∧ g.AsksNoCycle r.subtypes.entries ∧
      r.typeRenames.entries.Perm r.typeRenames.reverse.entries ∧
      (g.applySubtypes r).TypeRulesApart r.typeRenames.entries ∧
      (g.applyRules r).Alike (g.applyRules { r with subtypes := r.subtypes.reverse }) ∧
      (g.applyRules r).Alike (g.applyRules { r with typeRenames := r.typeRenames.reverse }) := by
  intro g r
  have hcycle : g.AsksNoCycle r.subtypes.entries := by
    let rank : String → Nat := fun n => if n ∈ ["R", "S"] then 0 else 1
    have hdown : ∀ e ∈ r.subtypes.entries, rank e.2 < rank e.1 := by decide +kernel
    exact asksNoCycle_of_rank hdown
  have hapart : (g.applySubtypes r).TypeRulesApart r.typeRenames.entries := by
    constructor
    · decide +kernel
    · decide +kernel
    · decide +kernel
    · decide +kernel
    · have hnamed : ∀ e ∈ r.typeRenames.entries,
          (g.applySubtypes r).resolveType e.1 = .named e.1 := by decide +kernel
      intro e _ e' he' _ _
      left
      intro p
      simp [hnamed e' he']
  obtain ⟨hsubtypes, htypes⟩ := alike_applyRules_of_perm Dialect.java.builtins letterSamples r
  have hperm := r.subtypes.perm_reverse
  have hperm' := r.typeRenames.perm_reverse
  exact ⟨hperm, hcycle, hperm', hapart, hsubtypes _ hperm hcycle, htypes _ hperm' hapart⟩

/-- Rule sets whose type rules get into the way of each other. -/
def crossedRules : List RuleSet :=
  [ -- one rule puts in what another one takes out
    ((∅ : RuleSet).mapType "A" ⟨"B", false⟩).mapType "B" ⟨"T", false⟩,
    -- two names of one type
    ((∅ : RuleSet).mapType "String" ⟨"T", false⟩).mapType "string" ⟨"T", true⟩,
    -- classes with bases of their own come together
    (((((∅ : RuleSet).assignSubtype "A" "P").assignSubtype "B" "Q").mapType "A"
      ⟨"T", false⟩).mapType "B" ⟨"T", false⟩),
    -- a base is left to a class, and is folded itself into one that derives from that class
    (((((∅ : RuleSet).assignSubtype "A" "P").assignSubtype "Q" "B").mapType "A"
      ⟨"B", false⟩).mapType "P" ⟨"Q", false⟩),
    -- classes of two packages come together under a free name
    ((∅ : RuleSet).mapType "A" ⟨"T", false⟩).mapType "C" ⟨"T", false⟩,
    -- a field of another type than its parts is taken out
    ((∅ : RuleSet).mapType "boolean" ⟨"T", false⟩).mapType "A" ⟨"B", false⟩]

/-- Two classes are to be the base of each other. -/
def cyclicRules : RuleSet := ((∅ : RuleSet).assignSubtype "A" "B").assignSubtype "B" "A"

/-- Package and base of a class, and the type of one of its fields. -/
def outline (g : ClassGraph) (name key : String) :
    Option (String × Option String × Option (TypeRef × Bool)) :=
  (g.find? name).map fun c =>
    (c.package, c.base, (c.field? key).map fun f => (f.typeRef, f.isArray))

theorem Alike.outline {g' : ClassGraph} (h : g.Alike g') (name key : String) :
    g'.outline name key = g.outline name key := by
  rw [ClassGraph.outline, ClassGraph.outline]
  rcases (h.find? name).eq_or_exists with ⟨hc, hc'⟩ | ⟨c, c', hc, hc', hcc⟩
  · rw [hc, hc']
  · rw [hc, hc', Option.map_some, Option.map_some, hcc.package, hcc.base]
    rcases (hcc.content.fields key).eq_or_exists with ⟨hf, hf'⟩ | ⟨f, f', hf, hf', hff⟩
    · rw [ClassNode.field?, ClassNode.field?, hf, hf']
    · have hlist : f'.isArray = f.isArray := by
        cases hff
        rfl
      rw [ClassNode.field?, ClassNode.field?, hf, hf', Option.map_some, Option.map_some,
        hff.typeRef, hlist]

/-- The order of the subtype rules matters where they ask for a cycle, and the order of the type
rules where they get into the way of each other, each time in another way. -/
theorem exists_perm_not_alike_applyRules :
    let g := (new Dialect.java.builtins).runCalls (letterSamples.map Sample.call)
    (∃ subtypes : OrderedTable String, cyclicRules.subtypes.entries.Perm subtypes.entries ∧
      ¬ (g.applyRules cyclicRules).Alike (g.applyRules { cyclicRules with subtypes := subtypes })) ∧
    ∀ r ∈ crossedRules, ∃ typeRenames : OrderedTable TypeSpec,
      r.typeRenames.entries.Perm typeRenames.entries ∧
        ¬ (g.applyRules r).Alike (g.applyRules { r with typeRenames := typeRenames }) := by
  intro g
  constructor
  · refine ⟨cyclicRules.subtypes.reverse, cyclicRules.subtypes.perm_reverse, fun h => ?_⟩
    have hsame := h.outline "A" "x"
    revert hsame
    decide +kernel
  · intro r hr
    refine ⟨r.typeRenames.reverse, r.typeRenames.perm_reverse, fun h => ?_⟩
    have hdiffer : ∀ r ∈ crossedRules, ∃ name ∈ ["B", "T"],
        (g.applyRules { r with typeRenames := r.typeRenames.reverse }).outline name "x"
          ≠ (g.applyRules r).outline name "x" := by decide +kernel
    obtain ⟨name, -, hne⟩ := hdiffer r hr
    exact hne (h.outline name "x")

end ClassGraph

end ClassInference
