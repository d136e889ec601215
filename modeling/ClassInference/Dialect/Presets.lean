import ClassInference.Dialect

/-!
# Preset dialects

Java with Gson annotations and C# with the attributes of its JSON serializer.
-/

namespace ClassInference

namespace Dialect

def javaKeywords : List String := [
  "abstract", "assert", "boolean", "break", "byte", "case", "catch", "char", "class", "const",
  "continue", "default", "do", "double", "else", "enum", "extends", "false", "final", "finally",
  "float", "for", "goto", "if", "implements", "import", "instanceof", "int", "interface", "long",
  "native", "new", "null", "package", "private", "protected", "public", "return", "short",
  "static", "strictfp", "super", "switch", "synchronized", "this", "throw", "throws",
  "transient", "true", "try", "void", "volatile", "while"]

def csharpKeywords : List String := [
  "abstract", "as", "base", "bool", "break", "byte", "case", "catch", "char", "checked", "class",
  "const", "continue", "decimal", "default", "delegate", "do", "double", "else", "enum", "event",
  "explicit", "extern", "false", "finally", "fixed", "float", "for", "foreach", "goto", "if",
  "implicit", "in", "int", "interface", "internal", "is", "lock", "long", "namespace", "new",
  "null", "object", "operator", "out", "override", "params", "private", "protected", "public",
  "readonly", "ref", "return", "sbyte", "sealed", "short", "sizeof", "stackalloc", "static",
  "string", "struct", "switch", "this", "throw", "true", "try", "typeof", "uint", "ulong",
  "unchecked", "unsafe", "ushort", "using", "virtual", "void", "volatile", "while"]

def java : Dialect where
  fileExtension := "java"
  builtinPackage := "java.lang"
  reservedPrefix := "java"
  stringType := "String"
  lineComment := "//"
  packageDecl := "package \x7bnamespace\x7d;"
  importDecl := "import \x7bimport\x7d;"
  typeImport := "\x7bnamespace\x7d.\x7bname\x7d"
  classDecl := "public class \x7bname\x7d\x7bextends\x7d \x7b"
  enumDecl := "public enum \x7bname\x7d \x7b"
  extendsClause := " extends \x7bbase\x7d"
  fieldDecl := "private final \x7btype\x7d \x7bname\x7d;"
  constructorDecl := "public \x7bclass\x7d(\x7bparams\x7d) \x7b"
  parameter := "\x7btype\x7d \x7bname\x7d"
  baseCall := .statement "super(\x7bargs\x7d);"
  assignment := "this.\x7bname\x7d = \x7bname\x7d;"
  accessor := "public \x7btype\x7d get\x7bName\x7d() \x7b\nreturn \x7bname\x7d;\n\x7d"
  wireNameMark := "@SerializedName(\"\x7bjson\x7d\")"
  wireNameImport := some "com.google.gson.annotations.SerializedName"
  listType := "List<\x7belement\x7d>"
  listImport := some "java.util.List"
  dateType := "Date"
  dateImport := some "java.util.Date"
  primitives := [
    (.boolean, ⟨"boolean", "Boolean"⟩),
    (.int, ⟨"int", "Integer"⟩),
    (.long, ⟨"long", "Long"⟩),
    (.double, ⟨"double", "Double"⟩),
    (.string, ⟨"String", "String"⟩)]
  keywords := javaKeywords
  keywordEscape := "\x7bname\x7d_"

def csharp : Dialect where
  fileExtension := "cs"
  builtinPackage := "System"
  reservedPrefix := "System"
  stringType := "string"
  lineComment := "//"
  packageDecl := "namespace \x7bnamespace\x7d;"
  importDecl := "using \x7bimport\x7d;"
  typeImport := "\x7bnamespace\x7d"
  classDecl := "public class \x7bname\x7d\x7bextends\x7d \x7b"
  enumDecl := "public enum \x7bname\x7d \x7b"
  extendsClause := " : \x7bbase\x7d"
  fieldDecl := "private readonly \x7btype\x7d \x7bname\x7d;"
  constructorDecl := "public \x7bclass\x7d(\x7bparams\x7d)\x7bbase_init\x7d \x7b"
  parameter := "\x7btype\x7d \x7bname\x7d"
  baseCall := .initializer " : base(\x7bargs\x7d)"
  assignment := "this.\x7bname\x7d = \x7bname\x7d;"
  accessor := "public \x7btype\x7d \x7bName\x7d => \x7bname\x7d;"
  wireNameMark := "[JsonPropertyName(\"\x7bjson\x7d\")]"
  wireNameImport := some "System.Text.Json.Serialization"
  listType := "List<\x7belement\x7d>"
  listImport := some "System.Collections.Generic"
  dateType := "DateTime"
  dateImport := some "System"
  primitives := [
    (.boolean, ⟨"bool", "bool"⟩),
    (.int, ⟨"int", "int"⟩),
    (.long, ⟨"long", "long"⟩),
    (.double, ⟨"double", "double"⟩),
    (.string, ⟨"string", "string"⟩)]
  keywords := csharpKeywords
  keywordEscape := "@\x7bname\x7d"

/-- The preset of a name, in any case. -/
def preset? (name : String) : Option Dialect :=
  let letters := String.ofList (name.toList.map Char.toLower)
  if letters = "java" then some java
  else if letters = "csharp" ∨ letters = "cs" ∨ letters = "c#" then some csharp
  else none

end Dialect

end ClassInference
