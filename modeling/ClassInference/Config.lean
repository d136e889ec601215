import ClassInference.ClassNode
import ClassInference.Dialect.Presets
import ClassInference.Layout
import ClassInference.RuleSet
import ClassInference.Text.Replace
import ClassInference.Json.Container

/-!
# Configuration

What a configuration file settles: names, rules, enumerations, header and comment, layout and
dialect. The rules are kept as written; `ruleSet` brings them into the order in which they count.
-/

namespace ClassInference

namespace Config

structure TypeRename where
  source : String
  target : String
  array : Bool
deriving Repr, DecidableEq

structure Subtype where
  sub : String
  base : String
deriving Repr, DecidableEq

structure Rules where
  typeRenames : List TypeRename
  subtypes : List Subtype
  fieldRenames : List FieldRename
  fieldDeletes : List FieldDelete
deriving Repr, DecidableEq

/-- A declared enumeration; without a package it belongs to that of the root class. -/
structure Enumeration where
  package : Option String
  name : String
  constants : List EnumConstant
deriving Repr, DecidableEq

/-- A dialect by the name of a preset, or in full. -/
inductive DialectChoice where
  | preset (name : String)
  | custom (dialect : Dialect)
deriving Repr, DecidableEq

end Config

structure Config where
  package : String
  rootClass : String
  rules : Config.Rules
  enums : List Config.Enumeration
  fileHeader : Option String
  classComment : Option String
  layout : Layout
  dialect : Config.DialectChoice
deriving Repr, DecidableEq

namespace Config

def standard : Config where
  package := "com.example"
  rootClass := "Root"
  rules := ⟨[], [], [], []⟩
  enums := []
  fileHeader := none
  classComment := none
  layout := .standard
  dialect := .preset "java"

/-- The rules of the file as a rule set. -/
def ruleSet (c : Config) : RuleSet where
  typeRenames := .ofList (c.rules.typeRenames.map fun r => (r.source, ⟨r.target, r.array⟩))
  subtypes := .ofList (c.rules.subtypes.map fun r => (r.sub, r.base))
  fieldRenames := c.rules.fieldRenames
  fieldDeletes := c.rules.fieldDeletes

/-- The package that an enumeration is declared in. -/
def packageOf (c : Config) (e : Enumeration) : String := e.package.getD c.package

/-- The file header, `$year` replaced by a year. -/
def headerFor (c : Config) (year : Int) : Option String :=
  c.fileHeader.map (Text.replaceAll "$year" (toString year))

end Config

/-- A configuration that cannot be used: a fault at a path of its text, or a preset that is not
known. -/
inductive ConfigError where
  | syntaxError (path : List Json.Step) (error : Json.SyntaxError)
  | unknownPreset (name : String)
deriving Repr, DecidableEq

end ClassInference
