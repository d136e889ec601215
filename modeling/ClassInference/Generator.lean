import ClassInference.ClassGraph.Build
import ClassInference.ClassGraph.Rules
import ClassInference.Json.Document
import ClassInference.Layout
import ClassInference.Source

/-!
# Generators

Documents in, source files out. The observed graph stays free of rules; the finished graph, the
rules applied, is worked out when it is first asked for and kept until something is observed.
-/

namespace ClassInference

/-- A file to be written. -/
structure SourceFile where
  package : String
  name : String
  body : String
deriving Repr, DecidableEq

structure Generator where
  package : String
  rootClass : String
  dialect : Dialect
  layout : Layout
  rules : RuleSet
  observed : ClassGraph
  finished : Option ClassGraph

namespace Generator

def new (package rootClass : String) (dialect : Dialect) : Generator where
  package := package
  rootClass := rootClass
  dialect := dialect
  layout := .standard
  rules := ∅
  observed := .new ⟨dialect.builtinPackage, dialect.stringType, dialect.reservedPrefix⟩
  finished := none

def withLayout (g : Generator) (layout : Layout) : Generator := { g with layout := layout }

/-- Add rules; later ones win where keys agree. -/
def withRules (g : Generator) (rules : RuleSet) : Generator :=
  { g with rules := g.rules.extend rules }

def withFileHeader (g : Generator) (header : Option String) : Generator :=
  { g with observed := { g.observed with fileHeader := header } }

def withClassComment (g : Generator) (comment : Option String) : Generator :=
  { g with observed := { g.observed with classComment := comment } }

/-- Edit the observed graph. -/
def edit (g : Generator) (f : ClassGraph → ClassGraph) : Generator :=
  { g with observed := f g.observed, finished := none }

/-- Take a document into the observed graph under the root class. -/
def observe (g : Generator) (document : Json.Value) : Generator :=
  g.edit (·.build document g.package g.rootClass)

/-- Read a document and observe it. -/
def observeText (g : Generator) (text : String) : Except Json.SyntaxError Generator :=
  (Json.parse text).map g.observe

/-- The observed graph with the rules applied. -/
def finishedGraph (g : Generator) : ClassGraph := g.finished.getD (g.observed.applyRules g.rules)

/-- The finished graph, kept for the next time. -/
def finish (g : Generator) : Generator × ClassGraph :=
  ({ g with finished := some g.finishedGraph }, g.finishedGraph)

/-- The source of a node of a graph, laid out. -/
def sourceFile (g : Generator) (graph : ClassGraph) (c : ClassNode) : SourceFile :=
  ⟨c.package, c.name, g.layout.format (graph.source g.dialect c)⟩

/-- The source of one class of the finished graph. -/
def render (g : Generator) (name : String) : Generator × Option String :=
  let (g, graph) := g.finish
  (g, (graph.find? name).map fun c => (g.sourceFile graph c).body)

/-- The files of the finished graph in order. -/
def generate (g : Generator) : Generator × List SourceFile :=
  let (g, graph) := g.finish
  (g, graph.generatable.map (g.sourceFile graph))

end Generator

end ClassInference
