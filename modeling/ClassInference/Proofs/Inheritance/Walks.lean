import ClassInference.Proofs.Fields.Views
import ClassInference.Proofs.TypeRenames.Spared
import Mathlib.Computability.StateTransition

/-!
# Walks along base links, step by step

The walk to the ancestors, the walk that collects fields and the merge as loops: what each of them
holds between two steps, and what one step does. Nothing is asked of the graph, so that links may
lead in a circle or nowhere. Every step leaves fewer names to be met or fewer classes to come back
to, so each loop halts, and what it then holds is what the recursion gives. A merge meets no name
twice and changes a node only when it meets its name, which is why no content is changed twice.
-/

namespace ClassInference

open StateTransition

/-! ### Loops -/

section Loop

variable {σ τ : Type} {step : σ → Option σ}

/-- A loop halts if every step makes a number smaller, and then still has the value that every step
keeps. -/
theorem exists_halted (left : σ → Nat) (value : σ → τ)
    (hleft : ∀ {s t}, step s = some t → left t < left s)
    (hvalue : ∀ {s t}, step s = some t → value t = value s) (s : σ) :
    ∃ t ∈ eval step s, step t = none ∧ value t = value s := by
  induction hn : left s using Nat.strong_induction_on generalizing s with
  | h n ih =>
      cases hs : step s with
      | none => exact ⟨s, mem_eval.2 ⟨.refl, hs⟩, hs, rfl⟩
      | some t =>
          obtain ⟨u, hu, hhalt, hsame⟩ := ih (left t) (hn ▸ hleft hs) t rfl
          have heval : eval step s = eval step t := reaches_eval (.single hs)
          exact ⟨u, heval ▸ hu, hhalt, hsame.trans (hvalue hs)⟩

end Loop

namespace ClassGraph

variable {g : ClassGraph} {a : String}

/-! ### The walk to the ancestors -/

theorem nodup_chain (g : ClassGraph) (met : List String) (link : Option String) :
    (g.chain met link).Nodup := by
  fun_induction chain g met link with
  | case1 => exact .nil
  | case2 => exact .nil
  | case3 => exact List.nodup_singleton _
  | case4 met name hm c hf _ ih =>
      refine List.nodup_cons.2 ⟨fun hmem => ?_, ih⟩
      exact not_mem_of_mem_chain hmem List.mem_cons_self

/-- The climb from a class: the names found, nearest first, and the link to follow next. -/
structure Climb where
  found : List String
  link : Option String

/-- Follow the link, unless it leads to the class itself or to a name found already. -/
def climb (g : ClassGraph) (name : String) (s : Climb) : Option Climb :=
  match s.link with
  | none => none
  | some base =>
    if base = name ∨ base ∈ s.found then none else some ⟨s.found ++ [base], g.baseName? base⟩

namespace Climb

variable {s t : Climb} {name : String}

/-- The names met on a climb, nearest last. -/
def met (s : Climb) (name : String) : List String := s.found.reverse ++ [name]

theorem met_append (base : String) (link : Option String) :
    met ⟨s.found ++ [base], link⟩ name = base :: s.met name := by
  simp [met]

theorem climb_eq_some_iff :
    g.climb name s = some t ↔ ∃ base, s.link = some base ∧ base ∉ s.met name ∧
      t = ⟨s.found ++ [base], g.baseName? base⟩ := by
  cases hlink : s.link with
  | none => simp [climb, hlink]
  | some base =>
      have hmet : (base = name ∨ base ∈ s.found) ↔ base ∈ s.met name := by
        simp [met, or_comm]
      rw [climb, hlink]
      dsimp only
      simp only [hmet, Option.some.injEq, exists_eq_left']
      by_cases h : base ∈ s.met name <;> simp [h, eq_comm]

theorem unmet_lt (h : g.climb name s = some t) :
    g.unmet (t.met name) + t.link.isSome.toNat < g.unmet (s.met name) + s.link.isSome.toNat := by
  obtain ⟨base, hlink, hmet, rfl⟩ := climb_eq_some_iff.1 h
  rw [met_append, hlink]
  cases hf : g.find? base with
  | none =>
      have hle := unmet_cons_le g base (s.met name)
      have hbase : g.baseName? base = none := by rw [baseName?, hf, Option.bind_none]
      simp only [hbase, Option.isSome_none, Option.isSome_some, Bool.toNat_false, Bool.toNat_true]
      omega
  | some c =>
      have hlt := unmet_cons_lt (mem_names_of_find? hf) hmet
      have hlast := Bool.toNat_le (g.baseName? base).isSome
      simp only [Option.isSome_some, Bool.toNat_true]
      omega

/-- What is found and what is still to be found. -/
theorem found_append_chain (h : g.climb name s = some t) :
    t.found ++ g.chain (t.met name) t.link = s.found ++ g.chain (s.met name) s.link := by
  obtain ⟨base, hlink, hmet, rfl⟩ := climb_eq_some_iff.1 h
  rw [met_append, hlink, chain_of_not_mem hmet, List.append_assoc]
  rfl

theorem chain_of_halted (h : g.climb name s = none) : g.chain (s.met name) s.link = [] := by
  cases hlink : s.link with
  | none => exact chain_none _
  | some base =>
      apply chain_of_mem
      by_contra hmet
      have hstep : g.climb name s = some ⟨s.found ++ [base], g.baseName? base⟩ :=
        climb_eq_some_iff.2 ⟨base, hlink, hmet, rfl⟩
      rw [h] at hstep
      contradiction

end Climb

/-- The climb halts when it has found the ancestors. -/
theorem exists_mem_eval_climb (g : ClassGraph) (name : String) :
    ∃ s ∈ eval (g.climb name) ⟨[], g.baseName? name⟩, s.found = g.ancestors name := by
  obtain ⟨s, hs, hhalt, hfound⟩ :=
    exists_halted _ _ Climb.unmet_lt Climb.found_append_chain ⟨[], g.baseName? name⟩
  rw [Climb.chain_of_halted hhalt, List.append_nil] at hfound
  exact ⟨s, hs, hfound⟩

/-! ### The walk that collects fields -/

/-- The walk that collects fields: on its way to the farthest ancestor, with the classes to come
back to, or on the way back, with the table so far. -/
inductive Collection where
  | down (met : List String) (below : List ClassNode) (name : String)
  | up (below : List ClassNode) (table : OrderedTable Field)

def collect (g : ClassGraph) : Collection → Option Collection
  | .down met below name =>
    if name ∈ met then some (.up below ∅)
    else
      match g.find? name with
      | none => some (.up below ∅)
      | some c =>
        match c.base with
        | some base => some (.down (name :: met) (c :: below) base)
        | none => some (.up (c :: below) ∅)
  | .up [] _ => none
  | .up (c :: below) table => some (.up below (overlay table c.fields))

namespace Collection

variable {s t : Collection}

/-- The steps that are left at most. -/
def left (g : ClassGraph) : Collection → Nat
  | .down met below _ => 2 * g.unmet met + below.length + 1
  | .up below _ => below.length

/-- The fields of the classes to come back to over the table from above. -/
def value (g : ClassGraph) : Collection → OrderedTable Field
  | .down met below name => below.foldl (fun table c => overlay table c.fields)
      (g.effectiveFrom met name)
  | .up below table => below.foldl (fun table c => overlay table c.fields) table

theorem left_lt (h : g.collect s = some t) : t.left g < s.left g := by
  cases s with
  | down met below name =>
      rw [collect] at h
      split at h
      · cases h
        simp only [left]
        omega
      · rename_i hm
        split at h
        · cases h
          simp only [left]
          omega
        · rename_i c hf
          have hlt := unmet_cons_lt (mem_names_of_find? hf) hm
          split at h
          · cases h
            simp only [left, List.length_cons]
            omega
          · cases h
            simp only [left, List.length_cons]
            omega
  | up below table =>
      cases below with
      | nil => simp [collect] at h
      | cons c below =>
          cases h
          simp [left]

theorem value_collect (h : g.collect s = some t) : t.value g = s.value g := by
  cases s with
  | down met below name =>
      rw [collect] at h
      split at h
      · rename_i hm
        cases h
        rw [value, value, effectiveFrom_of_mem hm]
      · rename_i hm
        split at h
        · rename_i hf
          cases h
          rw [value, value, effectiveFrom_of_find?_none hf]
        · rename_i c hf
          split at h
          · rename_i base hbase
            cases h
            rw [value, value, effectiveFrom_of_find? hm hf, hbase]
            rfl
          · rename_i hbase
            cases h
            rw [value, value, effectiveFrom_of_find? hm hf, hbase]
            rfl
  | up below table =>
      cases below with
      | nil => simp [collect] at h
      | cons c below =>
          cases h
          rfl

theorem eq_up_of_halted (h : g.collect s = none) : s = .up [] (s.value g) := by
  cases s with
  | down met below name =>
      rw [collect] at h
      split at h
      · contradiction
      · split at h
        · contradiction
        · split at h <;> contradiction
  | up below table =>
      cases below with
      | nil => rfl
      | cons c below => simp [collect] at h

end Collection

/-- The walk that collects fields halts with the table of what it leaves no class of out. -/
theorem up_mem_eval_collect (g : ClassGraph) (met : List String) (name : String) :
    .up [] (g.effectiveFrom met name) ∈ eval g.collect (.down met [] name) := by
  obtain ⟨s, hs, hhalt, hvalue⟩ :=
    exists_halted _ _ Collection.left_lt Collection.value_collect (.down met [] name)
  rwa [Collection.eq_up_of_halted hhalt, hvalue] at hs

/-! ### The merge -/

/-- A merge: the graph so far, the targets met, and the next target with the class to fold into
it. -/
structure Merging where
  graph : ClassGraph
  met : List String
  pending : Option (String × ClassNode)

namespace Merging

variable {s t u v : Merging} {target : String} {other node : ClassNode}

/-- Fold `other` into the node of the target. The bases are next if both classes have one. -/
def fold (s : Merging) (target : String) (other node : ClassNode) : Merging :=
  let merged := s.graph.modify target (·.mergeContent other)
  match node.base, other.base with
  | some own, some theirs =>
    ⟨merged, target :: s.met, if own = theirs then none else (merged.find? theirs).map (own, ·)⟩
  | none, some theirs => ⟨merged.setBase target theirs, target :: s.met, none⟩
  | _, none => ⟨merged, target :: s.met, none⟩

def step (s : Merging) : Option Merging :=
  s.pending.map fun (target, other) =>
    if target ∈ s.met then { s with pending := none }
    else
      match s.graph.find? target with
      | none => ⟨s.graph, target :: s.met, none⟩
      | some node => s.fold target other node

/-- What a step does: the target has been met, or there is no such node, or it takes in the other
class. -/
theorem step_cases (h : s.step = some t) :
    ∃ target other, s.pending = some (target, other) ∧
      ((target ∈ s.met ∧ t = ⟨s.graph, s.met, none⟩) ∨
        (target ∉ s.met ∧ s.graph.find? target = none ∧ t = ⟨s.graph, target :: s.met, none⟩) ∨
        (target ∉ s.met ∧ ∃ node, s.graph.find? target = some node ∧
          t = s.fold target other node)) := by
  obtain ⟨⟨target, other⟩, hpending, rfl⟩ := Option.map_eq_some_iff.1 h
  refine ⟨target, other, hpending, ?_⟩
  dsimp only
  split
  · rename_i hm
    exact .inl ⟨hm, rfl⟩
  · rename_i hm
    split
    · rename_i hf
      exact .inr (.inl ⟨hm, hf, rfl⟩)
    · rename_i node hf
      exact .inr (.inr ⟨hm, node, hf, rfl⟩)

theorem met_fold (s : Merging) (target : String) (other node : ClassNode) :
    (s.fold target other node).met = target :: s.met := by
  unfold fold
  cases node.base <;> cases other.base <;> rfl

theorem names_fold (s : Merging) (target : String) (other node : ClassNode) :
    (s.fold target other node).graph.names = s.graph.names := by
  unfold fold
  cases node.base <;> cases other.base <;> simp [names_setBase]

/-- Only the content of the target is changed. -/
theorem content?_fold (h : a ≠ target) :
    (s.fold target other node).graph.content? a = s.graph.content? a := by
  have hmerged : (s.graph.modify target (·.mergeContent other)).content? a
      = s.graph.content? a := by
    rw [content?, find?_modify_of_ne h, content?]
  unfold fold
  cases node.base <;> cases other.base <;> simp [content?_setBase, hmerged]

/-- The steps that are left at most. -/
def left (s : Merging) : Nat := s.pending.elim 0 fun _ => s.graph.unmet s.met + 1

theorem left_lt (h : s.step = some t) : t.left < s.left := by
  obtain ⟨target, other, hpending, ⟨-, rfl⟩ | ⟨-, -, rfl⟩ | ⟨hm, node, hf, rfl⟩⟩ := step_cases h
  · simp [left, hpending]
  · simp [left, hpending]
  · have hlt := unmet_cons_lt (mem_names_of_find? hf) hm
    have hunmet : (s.fold target other node).graph.unmet (target :: s.met)
        = s.graph.unmet (target :: s.met) := by
      rw [unmet, names_fold, unmet]
    rw [left, left, hpending, met_fold, hunmet]
    cases (s.fold target other node).pending with
    | none => exact Nat.succ_pos _
    | some p => exact Nat.succ_lt_succ hlt

/-- The graph when the merge is through. -/
def result (s : Merging) : ClassGraph :=
  s.pending.elim s.graph fun (target, other) => s.graph.mergeFrom s.met target other

theorem result_fold (hm : target ∉ s.met) (hf : s.graph.find? target = some node) :
    (s.fold target other node).result = s.graph.mergeFrom s.met target other := by
  rw [mergeFrom_of_find? hm hf, fold]
  cases node.base with
  | none => cases other.base <;> rfl
  | some own =>
      cases other.base with
      | none => rfl
      | some theirs =>
          dsimp only
          split
          · rfl
          · rw [result]
            cases (s.graph.modify target (·.mergeContent other)).find? theirs <;> rfl

theorem result_step (h : s.step = some t) : t.result = s.result := by
  obtain ⟨target, other, hpending, hcases⟩ := step_cases h
  rw [result.eq_1 s, hpending, Option.elim_some]
  rcases hcases with ⟨hm, rfl⟩ | ⟨hm, hf, rfl⟩ | ⟨hm, node, hf, rfl⟩
  · exact (mergeFrom_of_mem hm).symm
  · exact (mergeFrom_of_find?_none hm hf).symm
  · exact result_fold hm hf

/-- A step changes no content of a name met before, and meets the name whose content it changes. -/
theorem content?_step (h : s.step = some t) :
    s.met ⊆ t.met ∧
      (t.graph.content? a ≠ s.graph.content? a → a ∉ s.met ∧ a ∈ t.met) := by
  obtain ⟨target, other, -, ⟨-, rfl⟩ | ⟨-, -, rfl⟩ | ⟨hm, node, -, rfl⟩⟩ := step_cases h
  · exact ⟨List.Subset.refl _, fun hne => absurd rfl hne⟩
  · exact ⟨List.subset_cons_self _ _, fun hne => absurd rfl hne⟩
  · rw [met_fold]
    refine ⟨List.subset_cons_self _ _, fun hne => ?_⟩
    have ha : a = target := by
      by_contra hother
      exact hne (content?_fold hother)
    rw [ha]
    exact ⟨hm, List.mem_cons_self⟩

theorem met_subset (h : Reaches step s t) : s.met ⊆ t.met := by
  induction h with
  | refl => exact List.Subset.refl _
  | tail _ hlast ih => exact List.Subset.trans ih (content?_step (a := "") hlast).1

/-- What one step of the merge changes in the content of a node, no later step changes. -/
def ChangesOnce (start : Merging) : Prop :=
  ∀ s t u v a, Reaches step start s → s.step = some t → Reaches step t u → u.step = some v →
    t.graph.content? a ≠ s.graph.content? a → v.graph.content? a = u.graph.content? a

theorem changesOnce (start : Merging) : start.ChangesOnce := by
  intro s t u v a _ hst htu huv hne
  have hmet : a ∈ u.met := met_subset htu ((content?_step hst).2 hne).2
  by_contra hagain
  exact ((content?_step huv).2 hagain).1 hmet

end Merging

/-- The merge halts with the merged graph. -/
theorem exists_mem_eval_merging (g : ClassGraph) (met : List String) (target : String)
    (other : ClassNode) :
    ∃ s ∈ eval Merging.step ⟨g, met, some (target, other)⟩,
      s.graph = g.mergeFrom met target other := by
  obtain ⟨s, hs, hhalt, hresult⟩ :=
    exists_halted _ _ Merging.left_lt Merging.result_step ⟨g, met, some (target, other)⟩
  have hpending : s.pending = none := Option.map_eq_none_iff.1 hhalt
  rw [Merging.result, hpending, Option.elim_none] at hresult
  exact ⟨s, hs, hresult⟩

/-! ### All walks -/

/-- On every graph, whatever its links, the climb to the ancestors, the walk that collects fields
and the merge halt with what the recursions give; the ancestors are different names and not that of
the class; and a merge changes the content of each node once at most. -/
theorem walks_halt (g : ClassGraph) :
    (∀ name, (∃ s ∈ eval (g.climb name) ⟨[], g.baseName? name⟩, s.found = g.ancestors name) ∧
      (g.ancestors name).Nodup ∧ name ∉ g.ancestors name) ∧
    (∀ met name, .up [] (g.effectiveFrom met name) ∈ eval g.collect (.down met [] name)) ∧
    ∀ met target other,
      (∃ s ∈ eval Merging.step ⟨g, met, some (target, other)⟩,
        s.graph = g.mergeFrom met target other) ∧
      Merging.ChangesOnce ⟨g, met, some (target, other)⟩ := by
  refine ⟨fun name => ⟨exists_mem_eval_climb g name, nodup_chain g _ _, ?_⟩,
    up_mem_eval_collect g, fun met target other =>
      ⟨exists_mem_eval_merging g met target other, Merging.changesOnce _⟩⟩
  intro hmem
  exact not_mem_of_mem_chain hmem List.mem_cons_self

end ClassGraph

end ClassInference
