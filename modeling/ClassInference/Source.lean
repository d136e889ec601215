import ClassInference.Declaration
import ClassInference.Text.Split

/-!
# Source text

A declaration written out as flat lines, without indentation. A gap between two parts is one empty
line, and none where there is one already.
-/

namespace ClassInference

namespace Source

/-- A unit of output: one line, a text of several lines, or a gap. -/
inductive Item where
  | line (text : String)
  | block (text : String)
  | gap
deriving Repr, DecidableEq

/-- The body of a string literal: backslashes and double quotes are escaped. -/
def escapeLiteral (s : String) : String :=
  String.ofList (s.toList.flatMap fun c =>
    if c = '\\' then ['\\', '\\'] else if c = '"' then ['\\', '"'] else [c])

/-- The lines of a block; line feeds that end it add none. -/
def blockLines (text : String) : List String :=
  let trimmed := (text.toList.reverse.dropWhile (· == '\n')).reverse
  (Text.lines trimmed).map String.ofList

/-- The lines so far with one more item. -/
def Item.appendTo (lines : List String) : Item → List String
  | line text => lines ++ [text]
  | block text => lines ++ blockLines text
  | gap =>
    match lines.getLast? with
    | some last => if last.isEmpty then lines else lines ++ [""]
    | none => lines

/-- The mark that states a wire name. -/
def wireNameMark (d : Dialect) (wireName : String) : String :=
  fill d.wireNameMark [("json", escapeLiteral wireName)]

def fieldItems (d : Dialect) (f : FieldDecl) : List Item :=
  (if f.annotated then [.line (wireNameMark d f.wireName)] else [])
    ++ [.line (fill d.fieldDecl [("type", f.type), ("name", f.name)])]

def constructorItems (d : Dialect) (name : String) (fields params : List FieldDecl)
    (superArgs : List String) : List Item :=
  let args := ", ".intercalate superArgs
  let call := fun template =>
    if superArgs.isEmpty then none else some (fill template [("args", args)])
  let (clause, statement) := match d.baseCall with
    | .initializer template => (call template, none)
    | .statement template => (none, call template)
  let parameters := ", ".intercalate
    (params.map fun p => fill d.parameter [("type", p.type), ("name", p.name)])
  [.line (fill d.constructorDecl
      [("class", name), ("params", parameters), ("base_init", clause.getD "")])]
    ++ (statement.map Item.line).toList
    ++ fields.map (fun f => .line (fill d.assignment [("name", f.name)]))
    ++ [.line "\x7d"]

def accessorItems (d : Dialect) (f : FieldDecl) : List Item :=
  [.gap, .block (fill d.accessor [("type", f.type), ("name", f.name), ("Name", f.accessor)])]

def recordItems (d : Dialect) (name : String) (base : Option String)
    (fields params : List FieldDecl) (superArgs : List String) : List Item :=
  let clause := (base.map fun b => fill d.extendsClause [("base", b)]).getD ""
  [.line (fill d.classDecl [("name", name), ("extends", clause)])]
    ++ (if fields.isEmpty then [] else .gap :: fields.flatMap (fieldItems d))
    ++ [.gap]
    ++ constructorItems d name fields params superArgs
    ++ fields.flatMap (accessorItems d)
    ++ [.line "\x7d"]

/-- The text of a constant, without the comma. -/
def memberText (d : Dialect) (m : MemberDecl) : String :=
  match m.literal with
  | some wire => wireNameMark d wire ++ " " ++ m.name
  | none => m.name

/-- Constants a line each, with a comma after all but the last. -/
def memberItems (d : Dialect) : List MemberDecl → List Item
  | [] => []
  | [m] => [.line (memberText d m)]
  | m :: rest => .line (memberText d m ++ ",") :: memberItems d rest

def kindItems (d : Dialect) (name : String) : Declaration.Kind → List Item
  | .record base fields params superArgs => recordItems d name base fields params superArgs
  | .enumeration members =>
    [.line (fill d.enumDecl [("name", name)])] ++ memberItems d members ++ [.line "\x7d"]

/-- The items of a declaration in order. -/
def items (d : Dialect) (decl : Declaration) : List Item :=
  (decl.header.map Item.block).toList
    ++ [.line (fill d.packageDecl [("namespace", decl.package)])]
    ++ (if decl.imports.isEmpty then []
        else .gap :: decl.imports.map fun i => .line (fill d.importDecl [("import", i)]))
    ++ [.gap]
    ++ (decl.comment.map Item.block).toList
    ++ kindItems d decl.name decl.kind

/-- The lines of several declarations, one after the other. -/
def lines (d : Dialect) (decls : List Declaration) : List String :=
  (decls.flatMap (items d)).foldl Item.appendTo []

/-- The text of several declarations in one file. -/
def text (d : Dialect) (decls : List Declaration) : String :=
  "\n".intercalate (lines d decls) ++ "\n"

end Source

/-- The flat source of a node. -/
def ClassGraph.source (g : ClassGraph) (d : Dialect) (c : ClassNode) : String :=
  Source.text d [g.declare d c]

end ClassInference
