import ClassInference.Config
import ClassInference.Dialect.Reader
import ClassInference.Json.Document
import ClassInference.Json.Record

/-!
# Reading configurations

The shapes of the records in a configuration file. The file and its rules refuse keys that they do
not know; the smaller records pass them over. Only the first value of the text is read.
-/

namespace ClassInference

namespace Config

open Json (Decoder RecordShape Step Value)

/-- A required field. -/
private def need {σ α : Type} (name : String) (d : Decoder α) (put : σ → α → σ) :
    Json.RecordField σ :=
  ⟨name, true, fun s path => do return put s (← d path)⟩

/-- A field that may be left out. -/
private def may {σ α : Type} (name : String) (d : Decoder α) (put : σ → α → σ) :
    Json.RecordField σ :=
  ⟨name, false, fun s path => do return put s (← d path)⟩

def typeRenameShape : RecordShape TypeRename where
  name := "TypeRenameRule"
  closed := false
  fields := [
    need "from" .string fun r v => { r with source := v },
    need "to" .string fun r v => { r with target := v },
    may "array" .bool fun r v => { r with array := v }]
  start := ⟨"", "", false⟩

def subtypeShape : RecordShape Subtype where
  name := "SubtypeRule"
  closed := false
  fields := [
    need "sub_type" .string fun r v => { r with sub := v },
    need "base_type" .string fun r v => { r with base := v }]
  start := ⟨"", ""⟩

def fieldRenameShape : RecordShape FieldRename where
  name := "FieldRenameRule"
  closed := false
  fields := [
    need "class" .string fun r v => { r with className := v },
    need "json_name" .string fun r v => { r with wireName := v },
    need "field" .string fun r v => { r with fieldName := v }]
  start := ⟨"", "", ""⟩

def fieldDeleteShape : RecordShape FieldDelete where
  name := "FieldDeleteRule"
  closed := false
  fields := [
    need "class" .string fun r v => { r with className := v },
    need "json_name" .string fun r v => { r with wireName := v }]
  start := ⟨"", ""⟩

def rulesShape : RecordShape Rules where
  name := "RulesConfig"
  closed := true
  fields := [
    may "type_renames" (.list typeRenameShape.decode) fun r v => { r with typeRenames := v },
    may "subtypes" (.list subtypeShape.decode) fun r v => { r with subtypes := v },
    may "field_renames" (.list fieldRenameShape.decode) fun r v => { r with fieldRenames := v },
    may "field_deletes" (.list fieldDeleteShape.decode) fun r v => { r with fieldDeletes := v }]
  start := standard.rules

def constantShape : RecordShape EnumConstant where
  name := "EnumValueConfig"
  closed := false
  fields := [
    need "name" .string fun c v => { c with name := v },
    may "json" (.nullable .string) fun c v => { c with wire := v }]
  start := ⟨"", none⟩

def enumerationShape : RecordShape Enumeration where
  name := "EnumConfig"
  closed := false
  fields := [
    may "namespace" (.nullable .string) fun e v => { e with package := v },
    need "name" .string fun e v => { e with name := v },
    need "values" (.list constantShape.decode) fun e v => { e with constants := v }]
  start := ⟨none, "", []⟩

def layoutShape : RecordShape Layout where
  name := "LayoutFormatter"
  closed := false
  fields := [
    may "indent" .string fun l v => { l with indent := v },
    may "max_width" .count fun l v => { l with maxWidth := v }]
  start := .standard

/-- A choice of dialect: any value is read first and then tried as the name of a preset and as a
dialect. The value stands one level of brackets deep. -/
def dialectChoice : Decoder DialectChoice := fun path =>
  Json.Reader.located path do
    let v ← Json.Reader.value (Json.depthLimit - 1) path
    match v with
    | .string name => return .preset name
    | v =>
      match Dialect.ofValue? v with
      | some d => return .custom d
      | none => Json.Reader.failUnplaced (.noVariant "SyntaxChoice")

def shape : RecordShape Config where
  name := "GeneratorConfig"
  closed := true
  fields := [
    may "root_namespace" .string fun c v => { c with package := v },
    may "root_class" .string fun c v => { c with rootClass := v },
    may "rules" rulesShape.decode fun c v => { c with rules := v },
    may "enums" (.list enumerationShape.decode) fun c v => { c with enums := v },
    may "file_header" (.nullable .string) fun c v => { c with fileHeader := v },
    may "class_comment" (.nullable .string) fun c v => { c with classComment := v },
    may "format" layoutShape.decode fun c v => { c with layout := v },
    may "syntax" dialectChoice fun c v => { c with dialect := v }]
  start := standard

/-- Read a configuration. -/
def read (text : ByteArray) : Except ConfigError Config :=
  match (shape.decode []).run text with
  | .ok c => .ok c
  | .error (e, path) => .error (.syntaxError (path.getD []) e)

/-- The dialect that a configuration chooses. -/
def resolveDialect (c : Config) : Except ConfigError Dialect :=
  match c.dialect with
  | .custom d => .ok d
  | .preset name =>
    match Dialect.preset? name with
    | some d => .ok d
    | none => .error (.unknownPreset name)

end Config

/-- Where in the configuration the error is. -/
def ConfigError.path : ConfigError → String
  | syntaxError path _ => Json.Step.render path
  | unknownPreset _ => "syntax"

def ConfigError.detail : ConfigError → String
  | syntaxError _ e => e.message
  | unknownPreset name => "unknown syntax preset `" ++ name ++ "` (expected `java` or `csharp`)"

def ConfigError.message (e : ConfigError) : String :=
  "invalid configuration (" ++ e.path ++ "): " ++ e.detail

end ClassInference
