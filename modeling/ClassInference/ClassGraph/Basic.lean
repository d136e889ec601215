import ClassInference.ClassNode

/-!
# Class graphs

All classes inferred from the documents, by name and in the order of their creation. A name is an
identity: whatever leads to a name that is present extends that node. The string type of the target
language is a node of its own from the start, in a reserved package.
-/

namespace ClassInference

/-- What the target language provides: its string type and the packages that are its own. -/
structure Builtins where
  package : String
  stringType : String
  reservedPrefix : String
deriving Repr, DecidableEq

structure ClassGraph where
  classes : OrderedTable ClassNode
  builtins : Builtins
  nextId : Nat
  fileHeader : Option String
  classComment : Option String
deriving Repr, DecidableEq

namespace ClassGraph

/-- Packages that begin with the reserved prefix, if there is one. -/
def isReserved (g : ClassGraph) (package : String) : Bool :=
  g.builtins.reservedPrefix != "" &&
    g.builtins.reservedPrefix.toList.isPrefixOf package.toList

def find? (g : ClassGraph) (name : String) : Option ClassNode := g.classes.get? name

def findId? (g : ClassGraph) (id : Nat) : Option ClassNode := g.classes.values.find? (·.id == id)

def contains (g : ClassGraph) (name : String) : Bool := g.classes.contains name

def names (g : ClassGraph) : List String := g.classes.keys

/-- The nodes in order. -/
def nodes (g : ClassGraph) : List ClassNode := g.classes.values

def size (g : ClassGraph) : Nat := g.classes.size

/-- The nodes that get a source file. -/
def generatable (g : ClassGraph) : List ClassNode := g.nodes.filter (·.generate)

/-- The graph with a node called `name`, created in `package` if it is new. A new node gets a source
file unless its package is reserved. -/
def ensure (g : ClassGraph) (package name : String) : ClassGraph :=
  if g.contains name then g
  else
    { g with
      classes := g.classes.insert name (.new g.nextId package name (!g.isReserved package))
      nextId := g.nextId + 1 }

/-- Change one node. -/
def modify (g : ClassGraph) (name : String) (f : ClassNode → ClassNode) : ClassGraph :=
  { g with classes := g.classes.modify name f }

/-- Drop a node. Base links to it stay. -/
def erase (g : ClassGraph) (name : String) : ClassGraph :=
  { g with classes := g.classes.erase name }

/-- Move a node to a name that is free, in its place. Base links to it stay. -/
def rekey (g : ClassGraph) (old new : String) : ClassGraph :=
  { g with classes := g.classes.rekey old new ({ · with name := new }) }

/-- Change every node. -/
def mapNodes (g : ClassGraph) (f : ClassNode → ClassNode) : ClassGraph :=
  { g with classes := g.classes.map fun _ c => f c }

/-- The graph with the string type alone. -/
def new (builtins : Builtins) : ClassGraph :=
  let g : ClassGraph := ⟨∅, builtins, 0, none, none⟩
  g.ensure builtins.package builtins.stringType

/-- Declare an enumeration. A node of that name becomes it and keeps its identity. -/
def declareEnum (g : ClassGraph) (package name : String) (constants : List EnumConstant) :
    ClassGraph :=
  (g.ensure package name).modify name (·.declareEnum constants)

/-- A type name as a rule spells it: the language's own string type means the primitive. -/
def resolveType (g : ClassGraph) (name : String) : TypeRef :=
  .parseAliased g.builtins.stringType name

@[simp] theorem names_modify (g : ClassGraph) (name : String) (f : ClassNode → ClassNode) :
    (g.modify name f).names = g.names := by
  simp [modify, names]

@[simp] theorem names_mapNodes (g : ClassGraph) (f : ClassNode → ClassNode) :
    (g.mapNodes f).names = g.names := by
  simp [mapNodes, names]

theorem find?_modify (g : ClassGraph) (name : String) (f : ClassNode → ClassNode) (n : String) :
    (g.modify name f).find? n = if n = name then (g.find? n).map f else g.find? n :=
  OrderedTable.get?_modify g.classes name f n

@[simp] theorem find?_mapNodes (g : ClassGraph) (f : ClassNode → ClassNode) (n : String) :
    (g.mapNodes f).find? n = (g.find? n).map f :=
  OrderedTable.get?_map (fun _ c => f c) g.classes n

theorem find?_erase (g : ClassGraph) (name n : String) :
    (g.erase name).find? n = if n = name then none else g.find? n :=
  OrderedTable.get?_erase g.classes name n

theorem find?_rekey {g : ClassGraph} {new : String} (h : new ∉ g.names) (old n : String) :
    (g.rekey old new).find? n
      = if n = new then (g.find? old).map ({ · with name := new })
        else if n = old then none else g.find? n :=
  OrderedTable.get?_rekey g.classes _ h n

theorem contains_iff {g : ClassGraph} {name : String} : g.contains name = true ↔ name ∈ g.names :=
  OrderedTable.contains_iff

theorem find?_isSome_iff {g : ClassGraph} {name : String} :
    (g.find? name).isSome = true ↔ name ∈ g.names :=
  OrderedTable.get?_isSome_iff

theorem exists_find?_of_mem_names {g : ClassGraph} {name : String} (h : name ∈ g.names) :
    ∃ c, g.find? name = some c :=
  Option.isSome_iff_exists.1 (find?_isSome_iff.2 h)

theorem find?_eq_none_iff {g : ClassGraph} {name : String} : g.find? name = none ↔ name ∉ g.names :=
  OrderedTable.get?_eq_none_iff

theorem mem_names_of_find? {g : ClassGraph} {name : String} {c : ClassNode}
    (h : g.find? name = some c) : name ∈ g.names :=
  find?_isSome_iff.1 (by simp [h])

theorem find?_ensure (g : ClassGraph) (package name n : String) :
    (g.ensure package name).find? n
      = if n = name then
          some ((g.find? name).getD (.new g.nextId package name (!g.isReserved package)))
        else g.find? n := by
  unfold ensure
  split
  · rename_i h
    obtain ⟨c, hc⟩ := exists_find?_of_mem_names (contains_iff.1 h)
    by_cases hn : n = name <;> simp [hn, hc]
  · rename_i h
    have hnone : g.find? name = none := find?_eq_none_iff.2 (mt contains_iff.2 h)
    simp only [hnone, Option.getD_none]
    exact OrderedTable.get?_insert g.classes name _ n

theorem mem_names_ensure {g : ClassGraph} {package name n : String} :
    n ∈ (g.ensure package name).names ↔ n = name ∨ n ∈ g.names := by
  rw [← find?_isSome_iff, ← find?_isSome_iff, find?_ensure]
  by_cases hn : n = name <;> simp [hn]

end ClassGraph

end ClassInference
