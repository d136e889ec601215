import ClassInference.ClassGraph.Basic

/-!
# Inheritance

Base links lead from a class to its ancestors. The walk stops where a link is missing, leads
nowhere or comes back to a class already met, so it ends on every graph. The field views of a class
walk the same links: one collects a table from the base on, one asks that table for single names,
and one goes through the list of ancestors.
-/

namespace ClassInference

namespace ClassGraph

/-- How many names of the graph a walk has not met yet. -/
def unmet (g : ClassGraph) (met : List String) : Nat := g.names.countP (· ∉ met)

private theorem countP_not_mem_cons_le (ns : List String) (name : String) (met : List String) :
    ns.countP (· ∉ name :: met) ≤ ns.countP (· ∉ met) := by
  apply List.countP_mono_left
  intro n _ hn
  simp only [List.mem_cons, not_or, decide_eq_true_eq] at hn ⊢
  exact hn.2

theorem unmet_cons_le (g : ClassGraph) (name : String) (met : List String) :
    g.unmet (name :: met) ≤ g.unmet met :=
  countP_not_mem_cons_le g.names name met

theorem unmet_cons_lt {g : ClassGraph} {name : String} {met : List String}
    (hg : name ∈ g.names) (hm : name ∉ met) : g.unmet (name :: met) < g.unmet met := by
  unfold unmet
  generalize g.names = ns at hg
  induction ns with
  | nil => simp at hg
  | cons n ns ih =>
    have hle := countP_not_mem_cons_le ns name met
    by_cases hn : n = name
    · subst hn
      rw [List.countP_cons_of_neg (by simp), List.countP_cons_of_pos (by simpa using hm)]
      omega
    · have hmem : name ∈ ns := (List.mem_cons.1 hg).resolve_left (Ne.symm hn)
      have := ih hmem
      by_cases hx : n ∈ met
      · simpa [List.countP_cons, hx] using this
      · simpa [List.countP_cons, hx, hn] using this

/-- The base link of a class. -/
def baseName? (g : ClassGraph) (name : String) : Option String :=
  (g.find? name).bind (·.base)

/-- The chain of bases from `link` on, without the names in `met`. -/
def chain (g : ClassGraph) (met : List String) : Option String → List String
  | none => []
  | some name =>
    if hm : name ∈ met then []
    else
      match hf : g.find? name with
      | none => [name]
      | some c =>
        have := unmet_cons_lt (mem_names_of_find? hf) hm
        name :: g.chain (name :: met) c.base
termination_by g.unmet met

/-- The base classes of a class, nearest first. -/
def ancestors (g : ClassGraph) (name : String) : List String :=
  g.chain [name] (g.baseName? name)

def baseOf? (g : ClassGraph) (name : String) : Option ClassNode :=
  (g.baseName? name).bind g.find?

/-- The own fields of a class; none if there is no such class. -/
def ownFields (g : ClassGraph) (name : String) : List Field :=
  ((g.find? name).map (·.fields)).getD []

/-- Put fields over a table: each takes the place of the one of its wire name, or comes last. -/
def overlay (inherited : OrderedTable Field) (own : List Field) : OrderedTable Field :=
  own.foldl (fun acc f => acc.insert f.wireName f) inherited

/-- Own and inherited fields by wire name from a class on, the classes in `met` left out: the
farthest ancestor's come first, and a field takes the place of an inherited one. -/
def effectiveFrom (g : ClassGraph) (met : List String) (name : String) : OrderedTable Field :=
  if hm : name ∈ met then ∅
  else
    match hf : g.find? name with
    | none => ∅
    | some c =>
      have := unmet_cons_lt (mem_names_of_find? hf) hm
      overlay
        (match c.base with
          | some base => g.effectiveFrom (name :: met) base
          | none => ∅)
        c.fields
termination_by g.unmet met

/-- Own and inherited fields by wire name. -/
def effectiveTable (g : ClassGraph) (name : String) : OrderedTable Field := g.effectiveFrom [] name

def effectiveFields (g : ClassGraph) (name : String) : List Field := (g.effectiveTable name).values

/-- Whether a field of that wire name reaches the class from its base. -/
def inherits (g : ClassGraph) (name wireName : String) : Bool :=
  match g.baseName? name with
  | some base => (g.effectiveFrom [name] base).contains wireName
  | none => false

/-- The own fields that no ancestor provides. -/
def declaredFields (g : ClassGraph) (name : String) : List Field :=
  (g.ownFields name).filter fun f => !g.inherits name f.wireName

/-- The constructor's parameters: those of the bases, then the declared fields. -/
def constructorFields (g : ClassGraph) (name : String) : List Field :=
  (g.ancestors name).reverse.flatMap g.declaredFields ++ g.declaredFields name

/-- Make `sub` derive from `base`. Refused when either is missing, when they are one class, or when
`sub` is already above `base`. -/
def setBase? (g : ClassGraph) (sub base : String) : Option ClassGraph :=
  if g.contains sub && g.contains base && sub != base && !(g.ancestors base).contains sub then
    some (g.modify sub ({ · with base := some base }))
  else none

def setBase (g : ClassGraph) (sub base : String) : ClassGraph := (g.setBase? sub base).getD g

/-- Let every class that derives from `old` derive from `new`; the class `new` itself loses its
base instead. -/
def redirectBases (g : ClassGraph) (old new : String) : ClassGraph :=
  g.mapNodes fun c =>
    if c.base = some old then { c with base := if c.name = new then none else some new } else c

/-- Drop a node; the classes that derive from it lose their base. -/
def remove? (g : ClassGraph) (name : String) : Option (ClassNode × ClassGraph) :=
  (g.find? name).map fun c =>
    (c, (g.erase name).mapNodes fun d =>
      if d.base = some name then { d with base := none } else d)

/-- Rename a node in its place. Refused when there is none or the new name is taken. -/
def rename? (g : ClassGraph) (old new : String) : Option ClassGraph :=
  if old != new && !g.contains new && g.contains old then
    some ((g.rekey old new).redirectBases old new)
  else none

end ClassGraph

end ClassInference
