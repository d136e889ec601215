import ClassInference.Proofs.Inheritance.Runs
import ClassInference.Proofs.TypeRenames.Moves

/-!
# Nodes of reserved packages

A rule may name a built-in node as its origin, its target, its subclass or its base. The node stays
in each case: only the origin of a type rename is moved, and a built-in one is not. What a rule set
does to the other nodes is to drop or to move them, so that all nodes that it leaves are old ones
with their identities.
-/

namespace ClassInference

namespace ClassGraph

variable {g k l : ClassGraph} {name : String}

/-! ### One rule -/

/-- Built-in nodes keep their names and identities, and there are no identities but old ones. -/
structure KeepsBuiltins (g k : ClassGraph) : Prop where
  builtins : k.builtins = g.builtins
  identity : ∀ name, g.isBuiltin name = true → k.identity? name = g.identity? name
  origin : ∀ name i, k.identity? name = some i → ∃ source, g.identity? source = some i

theorem KeepsBuiltins.refl (g : ClassGraph) : g.KeepsBuiltins g where
  builtins := rfl
  identity _ _ := rfl
  origin name _ hi := ⟨name, hi⟩

theorem KeepsBuiltins.trans (h : g.KeepsBuiltins k) (h' : k.KeepsBuiltins l) :
    g.KeepsBuiltins l where
  builtins := h'.builtins.trans h.builtins
  identity name hname := by
    have hid := h.identity name hname
    have hkept : k.isBuiltin name = true := (isBuiltin_congr h.builtins hid).trans hname
    exact (h'.identity name hkept).trans hid
  origin name i hi := by
    obtain ⟨between, hbetween⟩ := h'.origin name i hi
    exact h.origin between i hbetween

theorem keepsBuiltins_of_identity?_eq (hbuiltins : k.builtins = g.builtins)
    (hid : k.identity? = g.identity?) : g.KeepsBuiltins k where
  builtins := hbuiltins
  identity name _ := congrFun hid name
  origin name _ hi := ⟨name, (congrFun hid name).symm.trans hi⟩

/-- A built-in node is not moved, and a node that is moved takes its identity along or gives it
up. -/
theorem keepsBuiltins_renameType (g : ClassGraph) (old : String) (target : TypeSpec) :
    g.KeepsBuiltins (g.renameType old target) := by
  by_cases hstays : g.isBuiltin old = true ∨ old = target.name ∨ old ∉ g.names
  · apply keepsBuiltins_of_identity?_eq (g.builtins_renameType old target)
    rw [identity?_renameType, moveClass_of_stays hstays]
  · rw [not_or, not_or, Bool.not_eq_true, not_not] at hstays
    obtain ⟨hbuiltin, hne, hold⟩ := hstays
    constructor
    case builtins => exact g.builtins_renameType old target
    case identity =>
      intro name hname
      apply g.identity?_renameType_of_mem_names (mem_names_of_isBuiltin hname)
      rintro rfl
      exact absurd (hname.symm.trans hbuiltin) (by decide)
    case origin =>
      intro name i hi
      rw [identity?_renameType, identity?_moveClass hbuiltin hne hold] at hi
      split at hi
      · contradiction
      · split at hi
        · rw [Option.orElse_eq_orElse, Option.orElse_eq_or, Option.or_eq_some_iff] at hi
          rcases hi with hi | ⟨-, hi⟩
          · exact ⟨target.name, hi⟩
          · exact ⟨old, hi⟩
        · exact ⟨name, hi⟩

/-! ### Rule sets -/

theorem keepsBuiltins_applyRules (g : ClassGraph) (rules : RuleSet) :
    g.KeepsBuiltins (g.applyRules rules) := by
  apply applyRules_induction (motive := g.KeepsBuiltins) _ _ _ _ (.refl g)
  · intro k sub base hk
    exact hk.trans (keepsBuiltins_of_identity?_eq (k.builtins_edit (.setBase sub base))
      (k.identity?_setBase sub base))
  · intro k e _ hk
    exact hk.trans (keepsBuiltins_renameType k e.1 e.2)
  · intro k rule hk
    exact hk.trans (keepsBuiltins_of_identity?_eq (k.builtins_edit (.renameField rule))
      (k.identity?_renameField rule))
  · intro k rule hk
    exact hk.trans (keepsBuiltins_of_identity?_eq (k.builtins_edit (.deleteField rule))
      (k.identity?_deleteField rule))

/-- Every node of a reserved package is still found under its name, with its identity and as the
only node of that name, and whatever node still has its number has its package, too, and is handed
out just if it was. -/
structure ReservedSurvive (g k : ClassGraph) : Prop where
  reserved : ∀ c ∈ g.nodes, g.isReserved c.package = true →
    ∃ d, k.find? c.name = some d ∧ d.name = c.name ∧
      d.id = c.id ∧ d.package = c.package ∧ d.generate = c.generate ∧
      ∀ e ∈ k.nodes, e.name = c.name → e = d
  surviving : ∀ c ∈ g.nodes, ∀ d ∈ k.nodes, d.id = c.id →
    d.package = c.package ∧ d.generate = c.generate

theorem find?_name_of_mem_nodes (hn : g.Named) {c : ClassNode} (hc : c ∈ g.nodes) :
    g.find? c.name = some c := by
  obtain ⟨name, hname⟩ := OrderedTable.mem_values_iff.1 hc
  rwa [hn hname]

theorem KeepsBuiltins.reservedSurvive (h : g.KeepsBuiltins k) (hg : g.Named) (hk : k.Named)
    (hnumbered : g.Numbered) : g.ReservedSurvive k := by
  constructor
  case reserved =>
    intro c hc hreserved
    have hfind := find?_name_of_mem_nodes hg hc
    have hbuiltin : g.isBuiltin c.name = true := by
      rw [isBuiltin, hfind]
      exact hreserved
    have hid : k.identity? c.name = some c.identity := by
      rw [h.identity c.name hbuiltin, identity?, hfind, Option.map_some]
    obtain ⟨d, hd, he⟩ := Option.map_eq_some_iff.1 hid
    obtain ⟨hnumber, hpackage, hgenerate⟩ := Identity.mk.inj he
    refine ⟨d, hd, hk hd, hnumber, hpackage, hgenerate, ?_⟩
    intro e hmem hname
    have hfound := find?_name_of_mem_nodes hk hmem
    rw [hname, hd] at hfound
    exact (Option.some.inj hfound).symm
  case surviving =>
    intro c hc d hd hnumber
    have hid : k.identity? d.name = some d.identity := by
      rw [identity?, find?_name_of_mem_nodes hk hd, Option.map_some]
    -- the node was there before, and its number was that of one node
    obtain ⟨source, hsource⟩ := h.origin d.name d.identity hid
    obtain ⟨b, hb, he⟩ := Option.map_eq_some_iff.1 hsource
    obtain ⟨hbnumber, hpackage, hgenerate⟩ := Identity.mk.inj he
    have hfind := find?_name_of_mem_nodes hg hc
    have hname : source = c.name := hnumbered.name_eq hb hfind (hbnumber.trans hnumber)
    rw [hname, hfind, Option.some.injEq] at hb
    rw [hb]
    exact ⟨hpackage.symm, hgenerate.symm⟩

/-- The nodes of reserved packages survive every rule set, applied to any graph that calls lead to
from a new one. -/
theorem reservedSurvive_applyRules (builtins : Builtins) (calls : List Call) (rules : RuleSet) :
    ((new builtins).runCalls calls).ReservedSurvive
      (((new builtins).runCalls calls).applyRules rules) := by
  have hnumbered : ((new builtins).runCalls calls).Numbered := by
    rw [runCalls_eq_run]
    exact numbered_run builtins _
  have hlater : (new builtins).runCalls (calls ++ [.applyRules rules])
      = ((new builtins).runCalls calls).applyRules rules := by
    rw [runCalls, List.foldl_append]
    rfl
  have hnamed := (wellLinked_runCalls builtins (calls ++ [.applyRules rules])).named
  rw [hlater] at hnamed
  exact (keepsBuiltins_applyRules _ rules).reservedSurvive
    (wellLinked_runCalls builtins calls).named hnamed hnumbered

end ClassGraph

end ClassInference
