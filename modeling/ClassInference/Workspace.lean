import ClassInference.FileTree
import ClassInference.Host

/-!
# Workspaces

A file tree, a directory in it to start from and a standard input: a host that is a plain value.
-/

namespace ClassInference

structure Workspace where
  tree : FileTree
  here : List String
  /-- What is left to read of the standard input. -/
  input : ByteArray

namespace Workspace

/-- Files under the starting directory, each with the directories around it. -/
def ofFiles (here : List String) (files : List (String × ByteArray)) (input : ByteArray) :
    Workspace where
  tree := files.foldl (fun t f => t.put (here ++ Path.segments f.1) (.file f.2))
    ((FileTree.directory []).put here (.directory []))
  here := here
  input := input

/-- The files under the starting directory. -/
def files (w : Workspace) : List (String × ByteArray) :=
  match w.tree.find? w.here with
  | some t => t.files.map fun f => (String.intercalate "/" f.1, f.2)
  | none => []

/-- Go on with the tree that an operation leaves, if it succeeds. -/
def update (f : FileTree → List String → Except FileFault FileTree) :
    StateM Workspace (Except FileFault Unit) := do
  let w ← get
  match f w.tree w.here with
  | .ok t =>
    set { w with tree := t }
    return .ok ()
  | .error fault => return .error fault

instance : Host (StateM Workspace) where
  read path := return (← get).tree.read (← get).here path
  readInput := do
    let w ← get
    set { w with input := .empty }
    return .ok w.input
  write path bytes := update fun t here => t.write here path bytes
  makeDirectory path := update fun t here => t.makeDirectory here path
  isPresent path := return (← get).tree.isPresent (← get).here path
  isDirectory path := return (← get).tree.isDirectory (← get).here path
  names path := return (← get).tree.names (← get).here path

end Workspace

end ClassInference
