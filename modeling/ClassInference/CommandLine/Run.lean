import ClassInference.ClassGraph.Description
import ClassInference.CommandLine.Failure
import ClassInference.CommandLine.Request
import ClassInference.Generator
import ClassInference.Glob
import ClassInference.Json.Pointer
import ClassInference.Json.Printer
import ClassInference.OutputPath

/-!
# Runs

Doing what a request asks for. The configuration comes first, then every input in its order;
nothing is written before all inputs have been observed.
-/

namespace ClassInference

namespace CommandLine

open Json (Value)

/-- What a run has to say, on either output. -/
structure Report where
  output : String
  notice : String
deriving Repr, DecidableEq

variable {m : Type → Type} [Monad m] [Host m]

/-- An operation on a file as a step of a run. -/
def onFile {α : Type} (path : String) (operation : m (Except FileFault α)) :
    ExceptT Failure m α := do
  match ← (operation : m _) with
  | .ok a => return a
  | .error fault => throw (.file path fault)

/-! ### Configuration -/

/-- The configuration of a file, or the standard one. -/
def loadConfig (path : Option String) : ExceptT Failure m Config := do
  match path with
  | none => return .standard
  | some path =>
    ExceptT.adapt (Failure.loading path) do
      match Config.read (← onFile path (Host.read path)) with
      | .ok c => return c
      | .error e => throw (.config e)

/-- What a request says itself counts more than the configuration. -/
def Request.override (r : Request) (c : Config) : Config where
  package := r.package.getD c.package
  rootClass := r.rootClass.getD c.rootClass
  rules := c.rules
  enums := c.enums
  fileHeader := c.fileHeader
  classComment := c.classComment
  layout :=
    let maxWidth := r.maxWidth.getD c.layout.maxWidth
    match r.indentWidth with
    | some width => .ofIndentWidth width maxWidth
    | none => { c.layout with maxWidth := maxWidth }
  dialect := (r.dialect.map .preset).getD c.dialect

/-- The generator that a configuration describes, in a year. Declared enumerations come before
everything that is observed. -/
def prepare (year : Int) (c : Config) : Except Failure Generator := do
  let dialect ← c.resolveDialect.mapError .config
  let g := (Generator.new c.package c.rootClass dialect)
    |>.withLayout c.layout
    |>.withRules c.ruleSet
    |>.withFileHeader (c.headerFor year)
    |>.withClassComment c.classComment
  return g.edit fun graph =>
    c.enums.foldl (fun graph e => graph.declareEnum (c.packageOf e) e.name e.constants) graph

/-! ### Inputs -/

/-- The paths that an input stands for. -/
def sources (input : String) : ExceptT Failure m (List String) := do
  if Glob.isGlob input then
    match Glob.read input with
    | .error e => throw (.inputs input e.message)
    | .ok g =>
      match ← ExceptT.adapt (fun e => .inputs input (Glob.ListingFault.message e)) g.paths with
      | [] => throw (.inputs input "glob pattern matched no files")
      | paths => return paths
  else return [input]

/-- The text of a source. A lone dash is the standard input. -/
def readSource (path : String) : ExceptT Failure m String := do
  let bytes ← onFile path (if Path.steps path = ["-"] then Host.readInput else Host.read path)
  match String.fromUTF8? bytes with
  | some text => return text
  | none => throw (.file path .notText)

/-- Lines without their ends. A carriage return counts as part of an end only before a line feed. -/
def documentLines (text : String) : List String :=
  let lines := Text.lines text.toList
  let ended := lines.dropLast.map fun l => if l.getLast? = some '\r' then l.dropLast else l
  ((ended ++ lines.getLast?.toList).filter fun l => !Text.isBlankText l).map String.ofList

/-- The documents of a text, all of them read before any is used. -/
def Request.documents (r : Request) (text : String) : Except Failure (List Value) :=
  (if r.byLine then (documentLines text).mapM Json.parse else (Json.parse text).map ([·])).mapError
    .document

/-- What is observed of a document: the part at the pointer, and of that what the filter makes of
it. -/
def Request.select (r : Request) (document : Value) : Except Failure (List Value) :=
  match (match r.pointer with
    | some p => document.at? p
    | none => some document) with
  | none => .ok []
  | some v =>
    match r.filter with
    | some f => (Query.runFilter f v).mapError .filter
    | none => .ok [v]

/-- Observe the documents of a source. -/
def Request.observe (r : Request) (g : Generator) (path : String) :
    ExceptT Failure m Generator := do
  let text ← readSource path
  let values ← (r.documents text).bind fun ds => ds.flatMapM r.select
  return values.foldl Generator.observe g

/-! ### Outputs -/

/-- Write a file, making the directories that it lies in. -/
def writeFile (path text : String) : ExceptT Failure m Unit := do
  let parents := Path.parents path
  onFile (parents.headD "") (Host.ensureDirectories (m := m) parents)
  onFile path (Host.write path text.toUTF8)

/-- Write the sources of a generator under a directory, or list them. -/
def writeSources (g : Generator) (output : Option String) : ExceptT Failure m Report := do
  let (g, files) := g.generate
  match output with
  | some root =>
    for f in files do
      writeFile (OutputPath.ofClass root g.dialect.fileExtension f.package f.name) f.body
    return ⟨"", "generated " ++ toString files.length ++ " class file(s) under " ++ root ++ "\n"⟩
  | none =>
    return ⟨String.join (files.map fun f =>
      g.dialect.lineComment ++ " ---- " ++ f.package ++ "." ++ f.name ++ " ----\n" ++ f.body), ""⟩

/-- Write the description of the finished graph to a file, or show it. -/
def writeDescription (g : Generator) (output : Option String) : ExceptT Failure m Report := do
  let (_, graph) := g.finish
  let text := graph.describe.pretty
  match output with
  | some path =>
    writeFile path text
    return ⟨"", "wrote " ++ path ++ "\n"⟩
  | none => return ⟨text ++ "\n", ""⟩

/-- Do what a request asks for. -/
def Request.run (r : Request) (year : Int) : ExceptT Failure m Report := do
  if r.idle then return ⟨"", reprStr r ++ "\n"⟩
  let g ← prepare year (r.override (← loadConfig r.config))
  let paths ← r.inputs.flatMapM sources
  let g ← paths.foldlM r.observe g
  match r.task with
  | .generate => writeSources g r.output
  | .inspect => writeDescription g r.output

end CommandLine

end ClassInference
