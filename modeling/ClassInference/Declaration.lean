import ClassInference.ClassGraph.Hierarchy
import ClassInference.Dialect
import ClassInference.Text.Replace

/-!
# Declarations

The plan of one source file: a class or an enumeration with every name, type and import settled for
a dialect. A constructor takes the base's parameters first, so that the two plans agree on them.
-/

namespace ClassInference

/-- A field or a parameter with its name and type as they are written. -/
structure FieldDecl where
  name : String
  wireName : String
  type : String
  annotated : Bool
deriving Repr, DecidableEq

/-- A constant of an enumeration; `literal` is there only if it is not the name. -/
structure MemberDecl where
  name : String
  literal : Option String
deriving Repr, DecidableEq

/-- What a file declares. The parameters are those of the base followed by the fields. -/
inductive Declaration.Kind where
  | record (base : Option String) (fields params : List FieldDecl) (superArgs : List String)
  | enumeration (members : List MemberDecl)
deriving Repr, DecidableEq

structure Declaration where
  package : String
  name : String
  imports : List String
  header : Option String
  comment : Option String
  kind : Declaration.Kind
deriving Repr, DecidableEq

/-- The name of the accessor, which two members of a class must not share. -/
def FieldDecl.accessor (f : FieldDecl) : String := Naming.capitalize f.name

/-- A field by itself, its name escaped if need be. -/
def Field.declare (d : Dialect) (f : Field) : FieldDecl :=
  let name := d.identifier f.name
  ⟨name, f.wireName, d.spellType f.typeRef f.isArray, name != f.wireName⟩

namespace Declaration

/-- A member name with a number after it. -/
def suffixed (base : String) (n : Nat) : String := base ++ toString n

/-- The first number from `n` on whose accessor is not among `taken`. A taken accessor is met once
and then left out of account, so the search ends. -/
def freeSuffix (taken : List String) (base : String) (n : Nat) : Nat :=
  let accessor := Naming.capitalize (suffixed base n)
  if h : accessor ∈ taken then
    have : (taken.erase accessor).length < taken.length := by
      have := List.length_pos_of_mem h
      rw [List.length_erase_of_mem h]
      omega
    freeSuffix (taken.erase accessor) base (n + 1)
  else n
termination_by taken.length

/-- Settle one member: a name whose accessor is taken gets the first free number from two on and
then states its wire name. -/
def settle (taken : List String) (f : FieldDecl) : FieldDecl :=
  if f.accessor ∈ taken then
    { f with name := suffixed f.name (freeSuffix taken f.name 2), annotated := true }
  else f

/-- The members of a class in order, their accessors all different. -/
def uniqueMembers (d : Dialect) (taken : List String) : List Field → List FieldDecl
  | [] => []
  | f :: rest =>
    let member := settle taken (f.declare d)
    member :: uniqueMembers d (member.accessor :: taken) rest

/-! ### Imports -/

/-- Put a text into a strictly increasing list. -/
def insertSorted (s : String) : List String → List String
  | [] => [s]
  | t :: ts => if s < t then s :: t :: ts else if s = t then t :: ts else t :: insertSorted s ts

/-- The texts of a list in increasing order, each once. -/
def sorted (texts : List String) : List String :=
  texts.foldr insertSorted []

/-- The import of a class of the graph that lives in another package, unless the language provides
that package. -/
def classImport? (g : ClassGraph) (d : Dialect) (package name : String) : Option String :=
  (g.find? name).bind fun c =>
    if c.package = package ∨ c.package = d.builtinPackage ∨ g.isReserved c.package then none
    else some (fill d.typeImport [("namespace", c.package), ("name", c.name)])

/-- The imports that the type of a parameter needs. -/
def typeImports (g : ClassGraph) (d : Dialect) (package : String) (f : Field) : List String :=
  (if f.isArray then d.listImport.toList else []) ++
    match f.typeRef with
    | .primitive _ => []
    | .named n =>
      if n = d.dateType then d.dateImport.toList else (classImport? g d package n).toList

/-! ### Planning -/

def planRecord (g : ClassGraph) (d : Dialect) (c : ClassNode) : List String × Kind :=
  let inherited := g.constructorFields c.name
  let params := uniqueMembers d [] inherited
  let split := params.length - (g.declaredFields c.name).length
  let fields := params.drop split
  let base := (g.baseOf? c.name).map (·.name)
  let superArgs := if base.isSome then (params.take split).map (·.name) else []
  let imports :=
    (if fields.any (·.annotated) then d.wireNameImport.toList else [])
      ++ inherited.flatMap (typeImports g d c.package)
      ++ (base.bind (classImport? g d c.package)).toList
  (imports, .record base fields params superArgs)

def planEnumeration (d : Dialect) (constants : List EnumConstant) : List String × Kind :=
  let members := constants.map fun c => ⟨c.name, c.literal⟩
  (if members.any (·.literal.isSome) then d.wireNameImport.toList else [], .enumeration members)

end Declaration

/-- Plan the declaration of a node. -/
def ClassGraph.declare (g : ClassGraph) (d : Dialect) (c : ClassNode) : Declaration :=
  let (imports, kind) := match c.content with
    | .record _ => Declaration.planRecord g d c
    | .enumeration constants => Declaration.planEnumeration d constants
  { package := c.package
    name := c.name
    imports := Declaration.sorted imports
    header := g.fileHeader
    comment := g.classComment.map (Text.replaceAll "$className" c.name)
    kind := kind }

end ClassInference
