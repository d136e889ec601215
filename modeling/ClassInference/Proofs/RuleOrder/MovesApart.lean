import ClassInference.Proofs.RuleOrder.Footprints

/-!
# The order of moves

A class that moves takes its base along if the name is free. If it is folded, its base is left to
the class that it is folded into, and so the order of the moves matters if the bases of classes that
come together differ, if a base is handed on to a class that another move touches, or if one rule
sends a class to where another one finds its own. Where no two rules do that, two moves can be
exchanged, and what remains to be moved stays apart.
-/

namespace ClassInference

namespace ClassGraph

open Relation

variable {g : ClassGraph} {n p : String} {origin : ClassNode}
  {rules rules' : List (String × TypeSpec)} {e e' : String × TypeSpec}

/-! ### Where classes go -/

/-- Where the class of a name goes: a built-in class stays, another one goes where its rule sends
it. -/
def destination (g : ClassGraph) (rules : List (String × TypeSpec)) (n : String) : String :=
  if g.isBuiltin n then n else ((rules.lookup n).map (·.name)).getD n

/-- The class comes together with others only if it has no base, or the base of the others, which
does not come there too. -/
def KeepsBases (g : ClassGraph) (rules : List (String × TypeSpec)) (a : String) : Prop :=
  ∀ b ∈ g.names, a ≠ b → g.destination rules a = g.destination rules b →
    g.destination rules a ≠ a → g.baseName? a = none ∨
      g.baseName? a = g.baseName? b ∧
        ∀ p ∈ g.baseName? a, g.destination rules p ≠ g.destination rules a

instance (g : ClassGraph) (rules : List (String × TypeSpec)) (a : String) :
    Decidable (g.KeepsBases rules a) :=
  inferInstanceAs (Decidable (∀ b ∈ g.names, _))

/-- The classes that a rule touches when it moves its own one: the two of its names, and all classes
above them if a base is handed on. -/
def touched (g : ClassGraph) (rules : List (String × TypeSpec)) (e : String × TypeSpec) :
    List String :=
  e.1 :: e.2.name ::
    if g.KeepsBases rules e.1 then [] else g.ancestors e.1 ++ g.ancestors e.2.name

/-- No two rules get into the way of each other when they move classes: none sends a class to where
the other one finds its own, both leave the bases as they are or they touch different classes, and
classes that come together under a free name are of one package. -/
structure MovesApart (g : ClassGraph) (rules : List (String × TypeSpec)) : Prop where
  distinct : (rules.map Prod.fst).Nodup
  apart : ∀ e ∈ rules, ∀ e' ∈ rules, e ≠ e' → e.2.name ≠ e'.1
  bases : ∀ e ∈ rules, ∀ e' ∈ rules, e ≠ e' → ¬ g.Stays e.1 e.2.name → ¬ g.Stays e'.1 e'.2.name →
    (g.KeepsBases rules e.1 ∧ g.KeepsBases rules e'.1) ∨
      ∀ n ∈ g.touched rules e, n ∉ g.touched rules e'
  package : ∀ a b c d, g.find? a = some c → g.find? b = some d →
    g.destination rules a = g.destination rules b → g.destination rules a ∉ g.names →
      c.package = d.package

theorem lookup_perm (hdistinct : (rules.map Prod.fst).Nodup) (h : rules.Perm rules') (n : String) :
    rules.lookup n = rules'.lookup n := by
  have hdistinct' : (rules'.map Prod.fst).Nodup := (h.map Prod.fst).nodup hdistinct
  let t : OrderedTable TypeSpec := ⟨rules, hdistinct⟩
  let t' : OrderedTable TypeSpec := ⟨rules', hdistinct'⟩
  have hentries : ∀ spec, (n, spec) ∈ t.entries ↔ (n, spec) ∈ t'.entries := fun _ => h.mem_iff
  apply Option.ext
  intro spec
  change t.get? n = some spec ↔ t'.get? n = some spec
  rw [OrderedTable.get?_eq_some_iff, OrderedTable.get?_eq_some_iff, hentries]

/-- A class stays where it is, or it goes where a rule for its name sends it. -/
theorem destination_eq_or (g : ClassGraph) (rules : List (String × TypeSpec)) (n : String) :
    g.destination rules n = n ∨
      ∃ spec, (n, spec) ∈ rules ∧ g.destination rules n = spec.name := by
  rw [destination]
  split
  · exact .inl rfl
  · cases hspec : rules.lookup n with
    | none => exact .inl rfl
    | some spec =>
        obtain ⟨before, after, hsplit, -⟩ := List.lookup_eq_some_iff.1 hspec
        exact .inr ⟨spec, by simp [hsplit], rfl⟩

/-- Where classes go does not depend on the order of the rules. -/
theorem destination_perm (hdistinct : (rules.map Prod.fst).Nodup) (h : rules.Perm rules') :
    g.destination rules = g.destination rules' := by
  funext n
  rw [destination, destination, lookup_perm hdistinct h]

theorem destination_eq_self (h : ∀ e ∈ rules, e.1 ≠ n) : g.destination rules n = n := by
  have hnone : rules.lookup n = none := by
    rw [List.lookup_eq_none_iff]
    intro e he
    simpa using (h e he).symm
  rw [destination, hnone]
  split <;> rfl

theorem destination_cons_of_ne (hn : n ≠ e.1) :
    g.destination (e :: rules) n = g.destination rules n := by
  have hb : (n == e.1) = false := by simpa using hn
  rw [destination, destination, List.lookup_cons, hb]

theorem destination_cons_self (hbuiltin : g.isBuiltin e.1 = false) :
    g.destination (e :: rules) e.1 = e.2.name := by
  rw [destination, hbuiltin, List.lookup_cons, beq_self_eq_true]
  rfl

theorem destination_of_mem (hdistinct : (rules.map Prod.fst).Nodup) (he : e ∈ rules)
    (hbuiltin : g.isBuiltin e.1 = false) : g.destination rules e.1 = e.2.name := by
  obtain ⟨before, after, rfl⟩ := List.append_of_mem he
  rw [destination_perm hdistinct List.perm_middle, destination_cons_self hbuiltin]

theorem mem_touched_iff :
    n ∈ g.touched rules e ↔ n = e.1 ∨ n = e.2.name ∨
      ¬ g.KeepsBases rules e.1 ∧ (n ∈ g.ancestors e.1 ∨ n ∈ g.ancestors e.2.name) := by
  rw [touched, List.mem_cons, List.mem_cons]
  split <;> simp_all

theorem KeepsBases.congr {g' : ClassGraph} (hnames : g'.names = g.names)
    (hbases : g'.baseName? = g.baseName?) (hdest : g'.destination rules' = g.destination rules)
    {a : String} (h : g.KeepsBases rules a) : g'.KeepsBases rules' a := by
  unfold KeepsBases
  rw [hnames, hbases, hdest]
  exact h

theorem touched_congr (hsame : g.destination rules = g.destination rules') :
    g.touched rules = g.touched rules' := by
  have hkeeps : ∀ a, g.KeepsBases rules a ↔ g.KeepsBases rules' a := fun a =>
    ⟨KeepsBases.congr rfl rfl hsame.symm, KeepsBases.congr rfl rfl hsame⟩
  funext e
  simp only [touched, hkeeps]

theorem closedUp_touched (h : ¬ g.KeepsBases rules e.1) : g.ClosedUp (g.touched rules e) := by
  intro a ha b hd
  rw [mem_touched_iff] at ha ⊢
  by_cases hb : b = e.1
  · exact .inl hb
  by_cases hb' : b = e.2.name
  · exact .inr (.inl hb')
  refine .inr (.inr ⟨h, ?_⟩)
  rw [mem_ancestors_iff, mem_ancestors_iff] at ha ⊢
  rcases ha with rfl | rfl | ⟨-, ⟨-, hp⟩ | ⟨-, hp⟩⟩
  · exact .inl ⟨hb, .single hd⟩
  · exact .inr ⟨hb', .single hd⟩
  · exact .inl ⟨hb, hp.tail hd⟩
  · exact .inr ⟨hb', hp.tail hd⟩

theorem MovesApart.perm (hg : g.MovesApart rules) (h : rules.Perm rules') :
    g.MovesApart rules' := by
  have hsame : g.destination rules = g.destination rules' := destination_perm hg.distinct h
  refine ⟨(h.map Prod.fst).nodup hg.distinct, ?_, ?_, ?_⟩
  · exact fun e he e' he' => hg.apart e (h.mem_iff.2 he) e' (h.mem_iff.2 he')
  · intro e he e' he' hne hmoves hmoves'
    rw [← touched_congr hsame]
    apply (hg.bases e (h.mem_iff.2 he) e' (h.mem_iff.2 he') hne hmoves hmoves').imp_left
    exact And.imp (KeepsBases.congr rfl rfl hsame.symm) (KeepsBases.congr rfl rfl hsame.symm)
  · rw [← hsame]
    exact hg.package

theorem MovesApart.ne_origin (h : g.MovesApart (e :: rules)) (he : e' ∈ rules) : e.1 ≠ e'.1 := by
  have hdistinct := h.distinct
  rw [List.map_cons, List.nodup_cons] at hdistinct
  intro hsame
  exact hdistinct.1 (hsame ▸ List.mem_map_of_mem he)

theorem MovesApart.ne_of_mem (h : g.MovesApart (e :: rules)) (he : e' ∈ rules) : e ≠ e' :=
  fun hsame => h.ne_origin he (congrArg Prod.fst hsame)

theorem MovesApart.target_ne_origin (h : g.MovesApart (e :: rules)) (he : e' ∈ rules) :
    e.2.name ≠ e'.1 :=
  h.apart e List.mem_cons_self e' (List.mem_cons_of_mem _ he) (h.ne_of_mem he)

/-- No other class is sent to where the rule finds its own. -/
theorem MovesApart.destination_ne (h : g.MovesApart (e :: rules)) (hn : n ≠ e.1) :
    g.destination (e :: rules) n ≠ e.1 := by
  rw [destination_cons_of_ne hn]
  rcases g.destination_eq_or rules n with hstays | ⟨spec, hmem, hgoes⟩
  · rwa [hstays]
  · rw [hgoes]
    exact h.apart _ (List.mem_cons_of_mem _ hmem) e List.mem_cons_self
      fun hsame => hn (congrArg Prod.fst hsame)

/-- The class that a rule sends its own to does not move. -/
theorem MovesApart.destination_target (h : g.MovesApart rules) (he : e ∈ rules)
    (hne : e.1 ≠ e.2.name) : g.destination rules e.2.name = e.2.name := by
  apply destination_eq_self
  intro e' he'
  by_cases hsame : e = e'
  · exact hsame ▸ hne
  · exact (h.apart e he e' he' hsame).symm

/-- Rules that both move a class leave the bases as they are, if one class comes there. -/
theorem MovesApart.keepsBases_of_meet (h : g.MovesApart rules) (he : e ∈ rules) (he' : e' ∈ rules)
    (hne : e ≠ e') (hmoves : ¬ g.Stays e.1 e.2.name) (hmoves' : ¬ g.Stays e'.1 e'.2.name)
    (hmeet : n ∈ g.touched rules e) (hmeet' : n ∈ g.touched rules e') :
    g.KeepsBases rules e.1 ∧ g.KeepsBases rules e'.1 :=
  (h.bases e he e' he' hne hmoves hmoves').resolve_right fun hapart => hapart n hmeet hmeet'

/-- A class that keeps the bases leaves none behind if it is folded. -/
theorem MovesApart.leavesBase (h : g.MovesApart rules) (he : e ∈ rules)
    (hmoves : ¬ g.Stays e.1 e.2.name) (hkeeps : g.KeepsBases rules e.1)
    (hnew : e.2.name ∈ g.names) : g.LeavesBase e.1 e.2.name := by
  obtain ⟨hbuiltin, hne, -⟩ := not_stays_iff.1 hmoves
  have hself : g.destination rules e.1 = e.2.name := destination_of_mem h.distinct he hbuiltin
  apply (hkeeps e.2.name hnew hne _ _).imp_right And.left
  · rw [hself, h.destination_target he hne]
  · rw [hself]
    exact hne.symm

/-- A rule moves its class inside what it touches. -/
theorem MovesApart.footprint (h : g.MovesApart rules) (he : e ∈ rules)
    (hmoves : ¬ g.Stays e.1 e.2.name) : g.Footprint (g.touched rules e) e.1 e.2.name where
  mem_old := List.mem_cons_self
  mem_new := List.mem_cons_of_mem _ List.mem_cons_self
  bases := by
    by_cases hnew : e.2.name ∈ g.names
    · by_cases hkeeps : g.KeepsBases rules e.1
      · exact .inl (h.leavesBase he hmoves hkeeps)
      · exact .inr ⟨hnew, closedUp_touched hkeeps⟩
    · exact .inl fun hmem => absurd hmem hnew

/-- A rule that moves nothing sends its class nowhere. -/
theorem MovesApart.destination_of_stays (h : g.MovesApart (e :: rules))
    (hstays : g.Stays e.1 e.2.name) (hn : n ∈ g.names) :
    g.destination rules n = g.destination (e :: rules) n := by
  by_cases hne : n = e.1
  · subst hne
    rw [destination_eq_self fun e' he' => (h.ne_origin he').symm]
    rcases hstays with hbuiltin | hself | hmem
    · rw [destination, hbuiltin, if_pos rfl]
    · rw [destination, List.lookup_cons, beq_self_eq_true]
      split
      · rfl
      · exact hself
    · exact absurd hn hmem
  · rw [destination_cons_of_ne hne]

/-! ### After the first move -/

section Moved

variable (h : g.MovesApart (e :: rules)) (hmoves : ¬ g.Stays e.1 e.2.name)

theorem mem_names_moveClass_new {old new : String} (hmoves : ¬ g.Stays old new) :
    new ∈ (g.moveClass old new).names := by
  obtain ⟨hbuiltin, hne, origin, horigin⟩ := not_stays_iff.1 hmoves
  have hold : old ∈ g.names := mem_names_of_find? horigin
  obtain ⟨i, hi⟩ := Option.isSome_iff_exists.1 (isSome_identity?_iff.2 hold)
  rw [← isSome_identity?_iff, identity?_moveClass hbuiltin hne hold, if_neg hne.symm, if_pos rfl,
    hi]
  cases g.identity? new <;> rfl

include h

theorem MovesApart.destination_moved :
    (g.moveClass e.1 e.2.name).destination rules e.2.name = e.2.name :=
  destination_eq_self fun _ he' => (h.target_ne_origin he').symm

omit h

/-- All other classes go where they went. -/
theorem destination_moveClass_of_ne (hold : n ≠ e.1) (hnew : n ≠ e.2.name) :
    (g.moveClass e.1 e.2.name).destination rules n = g.destination (e :: rules) n := by
  rw [destination_cons_of_ne hold, destination, isBuiltin_moveClass_of_ne hold hnew, destination]

theorem ne_and_mem_of_moved {old new : String} (hmoves : ¬ g.Stays old new)
    (hn : n ∈ (g.moveClass old new).names) (hnew : n ≠ new) : n ≠ old ∧ n ∈ g.names := by
  obtain ⟨hbuiltin, hne, origin, horigin⟩ := not_stays_iff.1 hmoves
  have hno : n ≠ old := by
    rintro rfl
    exact not_mem_names_moveClass hbuiltin hne horigin hn
  exact ⟨hno, (mem_names_moveClass_of_ne hno hnew).1 hn⟩

include h

theorem MovesApart.stays_iff (he' : e' ∈ rules) :
    (g.moveClass e.1 e.2.name).Stays e'.1 e'.2.name ↔ g.Stays e'.1 e'.2.name :=
  stays_moveClass_iff (h.ne_origin he').symm (h.target_ne_origin he').symm

include hmoves

/-- Where the first rule and another one touch the same class, it has a name of each of them. -/
theorem MovesApart.eq_or_eq_of_meet (he' : e' ∈ rules) (hmoves' : ¬ g.Stays e'.1 e'.2.name)
    (hmeet : n ∈ g.touched (e :: rules) e) (hmeet' : n ∈ g.touched (e :: rules) e') :
    (n = e.1 ∨ n = e.2.name) ∧ (n = e'.1 ∨ n = e'.2.name) := by
  obtain ⟨hkeeps, hkeeps'⟩ := h.keepsBases_of_meet List.mem_cons_self (List.mem_cons_of_mem _ he')
    (h.ne_of_mem he') hmoves hmoves' hmeet hmeet'
  constructor
  · exact (mem_touched_iff.1 hmeet).imp_right fun hn => hn.resolve_right fun hnot => hnot.1 hkeeps
  · exact (mem_touched_iff.1 hmeet').imp_right fun hn => hn.resolve_right fun hnot => hnot.1 hkeeps'

/-- The first rule does not touch the class of another one. -/
theorem MovesApart.origin_not_mem_touched (he' : e' ∈ rules) (hmoves' : ¬ g.Stays e'.1 e'.2.name) :
    e'.1 ∉ g.touched (e :: rules) e := by
  intro hmem
  rcases (h.eq_or_eq_of_meet hmoves he' hmoves' hmem List.mem_cons_self).1 with hsame | hsame
  · exact h.ne_origin he' hsame.symm
  · exact h.target_ne_origin he' hsame.symm

/-- The first rule does not touch the target of another one, unless it is its own. -/
theorem MovesApart.target_not_mem_touched (he' : e' ∈ rules) (hmoves' : ¬ g.Stays e'.1 e'.2.name)
    (hapart : e'.2.name ≠ e.2.name) : e'.2.name ∉ g.touched (e :: rules) e := by
  intro hmem
  have hmem' : e'.2.name ∈ g.touched (e :: rules) e' := List.mem_cons_of_mem _ List.mem_cons_self
  rcases (h.eq_or_eq_of_meet hmoves he' hmoves' hmem hmem').1 with hsame | hsame
  · exact h.apart e' (List.mem_cons_of_mem _ he') e List.mem_cons_self (h.ne_of_mem he').symm hsame
  · exact hapart hsame

/-- The first rule touches no class that comes to the target of another one, but those of its own
names. -/
theorem MovesApart.not_mem_touched_of_meet (he' : e' ∈ rules) (hmoves' : ¬ g.Stays e'.1 e'.2.name)
    (hn : n ∈ g.names) (hold : n ≠ e.1) (hnew : n ≠ e.2.name)
    (hmeet : g.destination (e :: rules) n = e'.2.name) : n ∉ g.touched (e :: rules) e := by
  by_cases hself : n = e'.2.name
  · subst hself
    exact h.target_not_mem_touched hmoves he' hmoves' hnew
  · rw [destination_cons_of_ne hold] at hmeet
    rcases g.destination_eq_or rules n with hstays | ⟨spec, hmem, hgoes⟩
    · exact absurd (hstays.symm.trans hmeet) hself
    · have hbuiltin : g.isBuiltin n = false := by
        rw [← Bool.not_eq_true]
        intro hbuiltin
        rw [destination, if_pos hbuiltin] at hmeet
        exact hself hmeet
      have hmoves'' : ¬ g.Stays n spec.name := by
        rw [not_stays_iff, ← hgoes, hmeet]
        exact ⟨hbuiltin, hself, exists_find?_of_mem_names hn⟩
      exact h.origin_not_mem_touched hmoves hmem hmoves''

/-- What the first rule does not touch has the base that it had, led on. -/
theorem MovesApart.baseName?_moveClass (hg : g.Fresh) (hn : n ∉ g.touched (e :: rules) e) :
    (g.moveClass e.1 e.2.name).baseName? n
      = (g.baseName? n).map fun p => if p = e.1 then e.2.name else p :=
  (h.footprint List.mem_cons_self hmoves).baseName?_moveClass hg.named hmoves hn

/-- What stands under the names after the first move, if it leaves the bases as they are. -/
theorem MovesApart.find?_moveClass (hkeeps : g.KeepsBases (e :: rules) e.1)
    (horigin : g.find? e.1 = some origin) (n : String) :
    (g.moveClass e.1 e.2.name).find? n
      = if n = e.1 then none
        else if n = e.2.name then some (arrived e.1 e.2.name origin (g.find? e.2.name))
        else (g.find? n).map (·.redirect e.1 e.2.name) := by
  obtain ⟨hbuiltin, hne, -⟩ := not_stays_iff.1 hmoves
  exact ClassGraph.find?_moveClass hbuiltin hne horigin
    (h.leavesBase List.mem_cons_self hmoves hkeeps) n

/-- The base of the class at the rule's target stays, if it is that of the class that arrives. -/
theorem MovesApart.baseName?_target (hkeeps : g.KeepsBases (e :: rules) e.1) {b : String}
    (hb : b = e.1 ∨ b = e.2.name) (hmem : e.2.name ∈ g.names → b = e.2.name)
    (hbase : g.baseName? b = some p) (hp : p ≠ e.1) :
    (g.moveClass e.1 e.2.name).baseName? e.2.name = some p := by
  obtain ⟨-, hne, origin, horigin⟩ := not_stays_iff.1 hmoves
  rw [baseName?, h.find?_moveClass hmoves hkeeps horigin, if_neg (Ne.symm hne), if_pos rfl,
    Option.bind_some, arrived]
  rw [baseName?] at hbase
  cases htarget : g.find? e.2.name with
  | some target =>
      rw [hmem (mem_names_of_find? htarget), htarget, Option.bind_some] at hbase
      rw [Option.elim_some, ClassNode.redirect_of_base_ne]
      · exact hbase
      · change target.base ≠ some e.1
        rw [hbase]
        simpa using hp
  | none =>
      have hb : b = e.1 := by
        apply hb.resolve_right
        rintro rfl
        rw [htarget] at hbase
        contradiction
      rw [hb, horigin, Option.bind_some] at hbase
      rw [Option.elim_none, ClassNode.redirect_of_base_ne]
      · exact hbase
      · change origin.base ≠ some e.1
        rw [hbase]
        simpa using hp

/-- A name that is led on goes where it went. -/
theorem MovesApart.destination_ledOn (p : String) :
    (g.moveClass e.1 e.2.name).destination rules (if p = e.1 then e.2.name else p)
      = g.destination (e :: rules) p := by
  obtain ⟨hbuiltin, hne, -⟩ := not_stays_iff.1 hmoves
  by_cases hold : p = e.1
  · rw [if_pos hold, h.destination_moved, hold, destination_cons_self hbuiltin]
  · rw [if_neg hold]
    by_cases hnew : p = e.2.name
    · rw [hnew, h.destination_moved, h.destination_target List.mem_cons_self hne]
    · exact destination_moveClass_of_ne hold hnew

/-- The class that another rule's class meets after the first move was under its name before, or is
the one that has moved; a base that goes elsewhere is led on. -/
theorem MovesApart.exists_met (hg : g.Fresh) (he' : e' ∈ rules) (hmoves' : ¬ g.Stays e'.1 e'.2.name)
    {b : String} (hb : b ∈ (g.moveClass e.1 e.2.name).names) (hab : e'.1 ≠ b)
    (hmeet : g.destination (e :: rules) e'.1 = (g.moveClass e.1 e.2.name).destination rules b) :
    ∃ b' ∈ g.names, e'.1 ≠ b' ∧ g.destination (e :: rules) e'.1 = g.destination (e :: rules) b' ∧
      ∀ p, g.baseName? b' = some p →
        g.destination (e :: rules) p ≠ g.destination (e :: rules) e'.1 →
          (g.moveClass e.1 e.2.name).baseName? b = some (if p = e.1 then e.2.name else p) := by
  obtain ⟨hbuiltin, hne, origin, horigin⟩ := not_stays_iff.1 hmoves
  have hself : g.destination (e :: rules) e.1 = e.2.name := destination_cons_self hbuiltin
  have hgoes : g.destination (e :: rules) e'.1 = e'.2.name :=
    destination_of_mem h.distinct (List.mem_cons_of_mem _ he') (not_stays_iff.1 hmoves').1
  by_cases hbx : b = e.2.name
  · subst hbx
    rw [h.destination_moved] at hmeet
    have hpe : ∀ p, g.destination (e :: rules) p ≠ g.destination (e :: rules) e'.1 → p ≠ e.1 := by
      rintro p hp rfl
      exact hp (hself.trans hmeet.symm)
    have hmem : e.2.name ∈ g.touched (e :: rules) e := List.mem_cons_of_mem _ List.mem_cons_self
    have hmem' : e.2.name ∈ g.touched (e :: rules) e' := by
      rw [← hmeet, hgoes]
      exact List.mem_cons_of_mem _ List.mem_cons_self
    obtain ⟨hfirst, -⟩ := h.keepsBases_of_meet List.mem_cons_self (List.mem_cons_of_mem _ he')
      (h.ne_of_mem he') hmoves hmoves' hmem hmem'
    by_cases hx : e.2.name ∈ g.names
    · have hstay := h.destination_target List.mem_cons_self hne
      refine ⟨e.2.name, hx, hab, hmeet.trans hstay.symm, fun p hp hfar => ?_⟩
      rw [if_neg (hpe p hfar)]
      exact h.baseName?_target hmoves hfirst (.inr rfl) (fun _ => rfl) hp (hpe p hfar)
    · refine ⟨e.1, mem_names_of_find? horigin, (h.ne_origin he').symm, hmeet.trans hself.symm,
        fun p hp hfar => ?_⟩
      rw [if_neg (hpe p hfar)]
      exact h.baseName?_target hmoves hfirst (.inl rfl) (absurd · hx) hp (hpe p hfar)
  · obtain ⟨hbe, hb⟩ := ne_and_mem_of_moved hmoves hb hbx
    rw [destination_moveClass_of_ne hbe hbx] at hmeet
    refine ⟨b, hb, hab, hmeet, fun p hp _ => ?_⟩
    have hnot := h.not_mem_touched_of_meet hmoves he' hmoves' hb hbe hbx (hmeet.symm.trans hgoes)
    rw [h.baseName?_moveClass hmoves hg hnot, hp, Option.map_some]

/-- A class that keeps the bases does so after the first move too. -/
theorem MovesApart.keepsBases_moved (hg : g.Fresh) (he' : e' ∈ rules)
    (hmoves' : ¬ g.Stays e'.1 e'.2.name) (hkeeps : g.KeepsBases (e :: rules) e'.1) :
    (g.moveClass e.1 e.2.name).KeepsBases rules e'.1 := by
  have hae : e'.1 ≠ e.1 := (h.ne_origin he').symm
  have hax : e'.1 ≠ e.2.name := (h.target_ne_origin he').symm
  intro b hb hab hmeet hfar'
  rw [destination_moveClass_of_ne hae hax] at hmeet hfar' ⊢
  rw [h.baseName?_moveClass hmoves hg (h.origin_not_mem_touched hmoves he' hmoves')]
  obtain ⟨b', hb', hab', hmeet', hkept⟩ := h.exists_met hmoves hg he' hmoves' hb hab hmeet
  rcases hkeeps b' hb' hab' hmeet' hfar' with hnone | ⟨hsame, hfar⟩
  · left
    rw [hnone, Option.map_none]
  · cases hp : g.baseName? e'.1 with
    | none => exact .inl rfl
    | some p =>
        right
        rw [Option.map_some, hkept p (hsame ▸ hp) (hfar p hp)]
        refine ⟨rfl, fun q hq => ?_⟩
        rw [← Option.mem_some_iff.1 hq, h.destination_ledOn hmoves]
        exact hfar p hp

/-- A rule touches no more classes after the first move. -/
theorem MovesApart.mem_touched_of_moved (hg : g.Fresh) (he' : e' ∈ rules)
    (hmoves' : ¬ g.Stays e'.1 e'.2.name)
    (hn : n ∈ (g.moveClass e.1 e.2.name).touched rules e') : n ∈ g.touched (e :: rules) e' := by
  rcases mem_touched_iff.1 hn with hsame | hsame | ⟨hnot, habove⟩
  · exact mem_touched_iff.2 (.inl hsame)
  · exact mem_touched_iff.2 (.inr (.inl hsame))
  · have hloud : ¬ g.KeepsBases (e :: rules) e'.1 :=
      mt (h.keepsBases_moved hmoves hg he' hmoves') hnot
    have hapart := (h.bases e List.mem_cons_self e' (List.mem_cons_of_mem _ he') (h.ne_of_mem he')
      hmoves hmoves').resolve_left fun hkeeps => hloud hkeeps.2
    have hclosed := (closedUp_touched hloud).moveClass (h.footprint List.mem_cons_self hmoves)
      hg.named hmoves hapart
    rw [mem_ancestors_iff, mem_ancestors_iff] at habove
    rcases habove with ⟨-, hp⟩ | ⟨-, hp⟩
    · exact (hclosed.transGen (fun _ _ => rfl) List.mem_cons_self hp).2
    · exact (hclosed.transGen (fun _ _ => rfl) (List.mem_cons_of_mem _ List.mem_cons_self) hp).2

/-- Classes that are going to meet under a free name are of one package after the first move too. -/
theorem MovesApart.package_moved {a b : String} {c d : ClassNode}
    (hc : (g.moveClass e.1 e.2.name).find? a = some c)
    (hd : (g.moveClass e.1 e.2.name).find? b = some d)
    (hmeet : (g.moveClass e.1 e.2.name).destination rules a
      = (g.moveClass e.1 e.2.name).destination rules b)
    (hfree : (g.moveClass e.1 e.2.name).destination rules a ∉ (g.moveClass e.1 e.2.name).names) :
    c.package = d.package := by
  have harrived := mem_names_moveClass_new hmoves
  have hax : a ≠ e.2.name := by
    rintro rfl
    rw [h.destination_moved] at hfree
    exact hfree harrived
  have hbx : b ≠ e.2.name := by
    rintro rfl
    rw [hmeet, h.destination_moved] at hfree
    exact hfree harrived
  obtain ⟨hae, -⟩ := ne_and_mem_of_moved hmoves (mem_names_of_find? hc) hax
  obtain ⟨hbe, -⟩ := ne_and_mem_of_moved hmoves (mem_names_of_find? hd) hbx
  obtain ⟨c', hc', hcc⟩ := exists_find?_of_moveClass hc hae hax
  obtain ⟨d', hd', hdd⟩ := exists_find?_of_moveClass hd hbe hbx
  rw [destination_moveClass_of_ne hae hax] at hmeet hfree
  rw [destination_moveClass_of_ne hbe hbx] at hmeet
  have hdx : g.destination (e :: rules) a ≠ e.2.name := by
    intro hx
    exact hfree (hx ▸ harrived)
  rw [mem_names_moveClass_of_ne (h.destination_ne hae) hdx] at hfree
  calc c.package = c'.package := congrArg Identity.package hcc.symm
    _ = d'.package := h.package a b c' d' hc' hd' hmeet hfree
    _ = d.package := congrArg Identity.package hdd

end Moved

/-! ### A rule that moves nothing -/

section Stays

variable (h : g.MovesApart (e :: rules)) (hstays : g.Stays e.1 e.2.name)

include h hstays

theorem MovesApart.keepsBases_of_stays (he' : e' ∈ rules) (hmem : e'.1 ∈ g.names)
    (hkeeps : g.KeepsBases (e :: rules) e'.1) : g.KeepsBases rules e'.1 := by
  have hfixed : g.destination rules e.1 = e.1 :=
    destination_eq_self fun _ he' => (h.ne_origin he').symm
  intro b hb hab hmeet hfar'
  rw [h.destination_of_stays hstays hmem] at hmeet hfar' ⊢
  rw [h.destination_of_stays hstays hb] at hmeet
  apply (hkeeps b hb hab hmeet hfar').imp_right
  rintro ⟨hsame, hfar⟩
  refine ⟨hsame, fun p hp => ?_⟩
  by_cases hpe : p = e.1
  · rw [hpe, hfixed]
    exact (h.destination_ne (h.ne_origin he').symm).symm
  · rw [← destination_cons_of_ne hpe]
    exact hfar p hp

theorem MovesApart.mem_touched_of_stays (he' : e' ∈ rules) (hmem : e'.1 ∈ g.names)
    (hn : n ∈ g.touched rules e') : n ∈ g.touched (e :: rules) e' := by
  rw [mem_touched_iff] at hn ⊢
  exact hn.imp_right (.imp_right (.imp_left (mt (h.keepsBases_of_stays hstays he' hmem))))

end Stays

/-- A rule that keeps the bases does so when the first rule has been applied, and a rule touches no
more classes then. -/
theorem MovesApart.keepsBases_moveClass (h : g.MovesApart (e :: rules)) (hg : g.Fresh)
    (he' : e' ∈ rules) (hmoves' : ¬ g.Stays e'.1 e'.2.name)
    (hkeeps : g.KeepsBases (e :: rules) e'.1) :
    (g.moveClass e.1 e.2.name).KeepsBases rules e'.1 := by
  by_cases hstays : g.Stays e.1 e.2.name
  · rw [hstays.moveClass_eq]
    exact h.keepsBases_of_stays hstays he' (mem_names_of_moves hmoves') hkeeps
  · exact h.keepsBases_moved hstays hg he' hmoves' hkeeps

theorem MovesApart.mem_touched_of_moveClass (h : g.MovesApart (e :: rules)) (hg : g.Fresh)
    (he' : e' ∈ rules) (hmoves' : ¬ g.Stays e'.1 e'.2.name)
    (hn : n ∈ (g.moveClass e.1 e.2.name).touched rules e') : n ∈ g.touched (e :: rules) e' := by
  by_cases hstays : g.Stays e.1 e.2.name
  · rw [hstays.moveClass_eq] at hn
    exact h.mem_touched_of_stays hstays he' (mem_names_of_moves hmoves') hn
  · exact h.mem_touched_of_moved hstays hg he' hmoves' hn

/-- The remaining rules do not get into the way of each other after the first move either. -/
theorem MovesApart.moveClass (h : g.MovesApart (e :: rules)) (hg : g.Fresh) :
    (g.moveClass e.1 e.2.name).MovesApart rules where
  distinct := (List.nodup_cons.1 h.distinct).2
  apart e he e' he' := h.apart e (List.mem_cons_of_mem _ he) e' (List.mem_cons_of_mem _ he')
  bases a ha b hb hab hmoves hmoves' := by
    rw [h.stays_iff ha] at hmoves
    rw [h.stays_iff hb] at hmoves'
    apply (h.bases a (List.mem_cons_of_mem _ ha) b (List.mem_cons_of_mem _ hb) hab hmoves
      hmoves').imp
    · exact And.imp (h.keepsBases_moveClass hg ha hmoves) (h.keepsBases_moveClass hg hb hmoves')
    · exact fun hapart n hn hn' => hapart n (h.mem_touched_of_moveClass hg ha hmoves hn)
        (h.mem_touched_of_moveClass hg hb hmoves' hn')
  package a b c d hc hd := by
    by_cases hstays : g.Stays e.1 e.2.name
    · rw [hstays.moveClass_eq] at hc hd ⊢
      rw [h.destination_of_stays hstays (mem_names_of_find? hc),
        h.destination_of_stays hstays (mem_names_of_find? hd)]
      exact h.package a b c d hc hd
    · exact h.package_moved hstays hc hd

/-! ### Exchanged moves -/

theorem MovesApart.swap (h : g.MovesApart (e :: e' :: rules)) : g.MovesApart (e' :: e :: rules) :=
  h.perm (.swap _ _ _)

/-- Two moves to one name, one after the other, name by name. -/
theorem MovesApart.find?_moveClass_moveClass (h : g.MovesApart (e :: e' :: rules)) (hg : g.Fresh)
    (hmoves : ¬ g.Stays e.1 e.2.name) (hmoves' : ¬ g.Stays e'.1 e'.2.name)
    (hkeeps' : g.KeepsBases (e :: e' :: rules) e'.1) {d : ClassNode} (hd : g.find? e'.1 = some d)
    (n : String) :
    ((g.moveClass e.1 e.2.name).moveClass e'.1 e'.2.name).find? n
      = if n = e'.1 then none
        else if n = e'.2.name then
          some (arrived e'.1 e'.2.name (d.redirect e.1 e.2.name)
            ((g.moveClass e.1 e.2.name).find? e'.2.name))
        else ((g.moveClass e.1 e.2.name).find? n).map (·.redirect e'.1 e'.2.name) := by
  have hmem : e' ∈ e' :: rules := List.mem_cons_self
  have hnot := h.origin_not_mem_touched hmoves hmem hmoves'
  have horigin : (g.moveClass e.1 e.2.name).find? e'.1 = some (d.redirect e.1 e.2.name) := by
    rw [(h.footprint List.mem_cons_self hmoves).find?_moveClass hmoves hnot, hd, Option.map_some]
  exact (h.moveClass hg).find?_moveClass (mt (h.stays_iff hmem).1 hmoves')
    (h.keepsBases_moveClass hg hmem hmoves' hkeeps') horigin n

/-- Where two classes come together, either of them may come first. -/
theorem MovesApart.alike_arrived (h : g.MovesApart (e :: e' :: rules)) (hg : g.Fresh)
    {c d : ClassNode} (hbuiltin : g.isBuiltin e.1 = false) (hne : e.1 ≠ e.2.name)
    (hc : g.find? e.1 = some c) (hbuiltin' : g.isBuiltin e'.1 = false)
    (hd : g.find? e'.1 = some d) (hmeet : e'.2.name = e.2.name)
    (hkeeps : g.KeepsBases (e :: e' :: rules) e.1)
    (hkeeps' : g.KeepsBases (e :: e' :: rules) e'.1) :
    (arrived e'.1 e.2.name (d.redirect e.1 e.2.name)
        (some (arrived e.1 e.2.name c (g.find? e.2.name)))).Alike
      (arrived e.1 e.2.name (c.redirect e'.1 e.2.name)
        (some (arrived e'.1 e.2.name d (g.find? e.2.name)))) := by
  have hab : e.1 ≠ e'.1 := h.ne_origin List.mem_cons_self
  cases ht : g.find? e.2.name with
  | some target =>
      have hxb : e.2.name ≠ e'.1 := h.target_ne_origin List.mem_cons_self
      exact alike_arrived_comm hab (Ne.symm hne) hxb (hg ht).fresh (hg hc).fresh (hg hd).fresh
  | none =>
      have hfirst : g.destination (e :: e' :: rules) e.1 = e.2.name :=
        destination_cons_self hbuiltin
      have hsecond : g.destination (e :: e' :: rules) e'.1 = e.2.name := by
        rw [destination_cons_of_ne hab.symm, destination_cons_self hbuiltin', hmeet]
      have hfree : e.2.name ∉ g.names := find?_eq_none_iff.1 ht
      have hne' : e.2.name ≠ e'.1 := h.target_ne_origin List.mem_cons_self
      apply alike_arrived_of_free hab (Ne.symm hne) hne' (hg hc) (hg hd)
      · apply h.package _ _ c d hc hd (hfirst.trans hsecond.symm)
        rwa [hfirst]
      · -- a class without a base meets no class with one
        have hbases := hkeeps _ (mem_names_of_find? hd) hab
          (hfirst.trans hsecond.symm) (hfirst.trans_ne (Ne.symm hne))
        have hbases' := hkeeps' _ (mem_names_of_find? hc) hab.symm
          (hsecond.trans hfirst.symm) (hsecond.trans_ne hne')
        rw [baseName?, baseName?, hc, hd] at hbases hbases'
        rcases hbases with hnone | ⟨hsame, -⟩
        · rcases hbases' with hnone' | ⟨hsame, -⟩
          · exact hnone.trans hnone'.symm
          · exact hsame.symm
        · exact hsame

/-- Two moves to one name can be exchanged. -/
theorem MovesApart.alike_exchange_of_meet (h : g.MovesApart (e :: e' :: rules)) (hg : g.Fresh)
    (hmoves : ¬ g.Stays e.1 e.2.name) (hmoves' : ¬ g.Stays e'.1 e'.2.name)
    (hmeet : e'.2.name = e.2.name) :
    ((g.moveClass e.1 e.2.name).moveClass e'.1 e'.2.name).Alike
      ((g.moveClass e'.1 e'.2.name).moveClass e.1 e.2.name) := by
  obtain ⟨hbuiltin, hne, c, hc⟩ := not_stays_iff.1 hmoves
  obtain ⟨hbuiltin', hne', d, hd⟩ := not_stays_iff.1 hmoves'
  have hab : e.1 ≠ e'.1 := h.ne_origin List.mem_cons_self
  have hxb : e.2.name ≠ e'.1 := h.target_ne_origin List.mem_cons_self
  have hmem : e'.2.name ∈ g.touched (e :: e' :: rules) e := by
    rw [hmeet]
    exact List.mem_cons_of_mem _ List.mem_cons_self
  obtain ⟨hkeeps, hkeeps'⟩ := h.keepsBases_of_meet List.mem_cons_self
    (List.mem_cons_of_mem _ List.mem_cons_self) (h.ne_of_mem List.mem_cons_self) hmoves hmoves'
    hmem (List.mem_cons_of_mem _ List.mem_cons_self)
  have hsame : g.destination (e :: e' :: rules) = g.destination (e' :: e :: rules) :=
    destination_perm h.distinct (.swap _ _ _)
  have hswapped := KeepsBases.congr rfl rfl hsame.symm hkeeps
  have hswapped' := KeepsBases.congr rfl rfl hsame.symm hkeeps'
  have hone := h.find?_moveClass hmoves hkeeps hc
  have hone' := h.swap.find?_moveClass hmoves' hswapped' hd
  apply alike_of_find? (by simp only [builtins_moveClass])
  intro n
  rw [h.find?_moveClass_moveClass hg hmoves hmoves' hkeeps' hd,
    h.swap.find?_moveClass_moveClass hg hmoves' hmoves hswapped hc]
  rw [hmeet] at hone' hne' ⊢
  by_cases hna : n = e.1
  · subst hna
    rw [if_neg hab, if_neg hne, if_pos rfl, hone, if_pos rfl]
    exact .none
  by_cases hnb : n = e'.1
  · subst hnb
    rw [if_pos rfl, if_neg hna, if_neg hxb.symm, hone', if_pos rfl]
    exact .none
  rw [if_neg hnb, if_neg hna]
  by_cases hnx : n = e.2.name
  · rw [if_pos hnx, if_pos hnx, hone, if_neg (Ne.symm hne), if_pos rfl, hone', if_neg hxb,
      if_pos rfl]
    exact .some (h.alike_arrived hg hbuiltin hne hc hbuiltin' hd hmeet hkeeps hkeeps')
  · rw [if_neg hnx, if_neg hnx, hone, if_neg hna, if_neg hnx, hone', if_neg hnb, if_neg hnx,
      ClassNode.map_redirect_comm hab hxb (Ne.symm hne)]
    exact .refl ClassNode.Alike.refl _

/-- Rules of different targets touch different classes. -/
theorem MovesApart.touched_apart (h : g.MovesApart (e :: e' :: rules))
    (hmoves : ¬ g.Stays e.1 e.2.name) (hmoves' : ¬ g.Stays e'.1 e'.2.name)
    (hapart : e'.2.name ≠ e.2.name) :
    ∀ n ∈ g.touched (e :: e' :: rules) e, n ∉ g.touched (e :: e' :: rules) e' := by
  intro n hn hn'
  rcases (h.eq_or_eq_of_meet hmoves List.mem_cons_self hmoves' hn hn').2 with rfl | rfl
  · exact h.origin_not_mem_touched hmoves List.mem_cons_self hmoves' hn
  · exact h.target_not_mem_touched hmoves List.mem_cons_self hmoves' hapart hn

/-- Two moves can be exchanged. -/
theorem MovesApart.alike_exchange (h : g.MovesApart (e :: e' :: rules)) (hg : g.Fresh) :
    ((g.moveClass e.1 e.2.name).moveClass e'.1 e'.2.name).Alike
      ((g.moveClass e'.1 e'.2.name).moveClass e.1 e.2.name) := by
  by_cases hstays : g.Stays e.1 e.2.name
  · rw [hstays.moveClass_eq, ((h.swap.stays_iff List.mem_cons_self).2 hstays).moveClass_eq]
    exact .refl _
  by_cases hstays' : g.Stays e'.1 e'.2.name
  · rw [hstays'.moveClass_eq, ((h.stays_iff List.mem_cons_self).2 hstays').moveClass_eq]
    exact .refl _
  by_cases hmeet : e'.2.name = e.2.name
  · exact h.alike_exchange_of_meet hg hstays hstays' hmeet
  · have hfootprint := h.footprint List.mem_cons_self hstays
    have hfootprint' := h.footprint (List.mem_cons_of_mem _ List.mem_cons_self) hstays'
    apply alike_of_find?_eq (by simp only [builtins_moveClass])
    exact hfootprint.find?_moveClass_comm hfootprint' hg.named hstays hstays'
      (h.touched_apart hstays hstays' hmeet)

/-! ### Runs -/

/-- Move the classes as the rules say, one after the other. -/
def moveAll (g : ClassGraph) (rules : List (String × TypeSpec)) : ClassGraph :=
  rules.foldl (fun acc e => acc.moveClass e.1 e.2.name) g

theorem Alike.moveAll {g' : ClassGraph} (h : g.Alike g') (hg : g.FieldsKeyed)
    (rules : List (String × TypeSpec)) : (g.moveAll rules).Alike (g'.moveAll rules) := by
  refine (Alike.foldl ?_ h hg).1
  intro k k' e _ hk hkeyed
  exact ⟨hk.moveClass hkeyed e.1 e.2.name,
    EveryContent.moveClass contentInvariant_keyed.over.merges hkeyed e.1 e.2.name⟩

/-- Moves that do not get into the way of each other come to the same in any order. -/
theorem MovesApart.alike_moveAll_of_perm (h : g.MovesApart rules) (hg : g.Fresh)
    (hperm : rules.Perm rules') : (g.moveAll rules).Alike (g.moveAll rules') := by
  induction hperm generalizing g with
  | nil => exact .refl g
  | cons e _ ih => exact ih (h.moveClass hg) (hg.moveClass _ _)
  | swap e e' rules =>
      apply (h.alike_exchange hg).moveAll
      exact ((hg.moveClass _ _).moveClass _ _).fieldsKeyed
  | trans hfirst _ ih ih' => exact (ih h hg).trans (ih' (h.perm hfirst) hg)

end ClassGraph

end ClassInference
