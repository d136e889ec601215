import ClassInference.FileFault
import ClassInference.Path

/-!
# File trees

Files and directories as a value, with the operations of a file system on it. A path is walked
segment by segment: every segment needs a directory to start from, and `..` leads to the directory
above.
-/

namespace ClassInference

/-- A file, or a directory with what it holds by name. -/
inductive FileTree where
  | file (bytes : ByteArray)
  | directory (entries : List (String × FileTree))

namespace FileTree

/-- A name in a directory has at most so many bytes. -/
def nameLimit : Nat := 255

/-- A path has fewer bytes than this. -/
def pathLimit : Nat := 4096

/-- What a directory holds under a name. -/
def entry? : FileTree → String → Option FileTree
  | file _, _ => none
  | directory entries, name => entries.lookup name

/-- What is at a place, given by the names that lead to it. -/
def find? (t : FileTree) : List String → Option FileTree
  | [] => some t
  | name :: names => (t.entry? name).bind (·.find? names)

/-- Write a name of a directory: in place if it is there, at the end otherwise. -/
def setEntry (name : String) (t : FileTree) : List (String × FileTree) → List (String × FileTree)
  | [] => [(name, t)]
  | e :: entries => if e.1 = name then (name, t) :: entries else e :: setEntry name t entries

/-- Put something at a place. Directories on the way that are not there come into being; below a
file there is no place. -/
def put : FileTree → List String → FileTree → FileTree
  | _, [], new => new
  | directory entries, name :: names, new =>
    directory (setEntry name (put ((entries.lookup name).getD (directory [])) names new) entries)
  | file bytes, _ :: _, _ => file bytes

/-! ### Walking -/

/-- The place that segments lead to from a place. -/
def walk (t : FileTree) : List String → List String → Except FileFault (List String)
  | place, [] => .ok place
  | place, s :: rest =>
    match t.find? place with
    | some (directory entries) =>
      if Path.isIdle s then walk t place rest
      else if s = ".." then walk t place.dropLast rest
      else if s.utf8ByteSize > nameLimit then .error .nameTooLong
      else if (entries.lookup s).isSome then walk t (place ++ [s]) rest
      else .error .missing
    | _ => .error .notDirectory

/-- A path fit for walking. -/
def checkPath (path : String) : Except FileFault Unit :=
  if path.toList.contains '\x00' then .error .nulInPath
  else if path.isEmpty then .error .missing
  else if path.utf8ByteSize ≥ pathLimit then .error .nameTooLong
  else .ok ()

/-- Where a path starts. -/
def origin (here : List String) (path : String) : List String :=
  if Path.isAbsolute path then [] else here

/-- What is at a path. -/
def resolve (t : FileTree) (here : List String) (path : String) : Except FileFault FileTree := do
  checkPath path
  let place ← t.walk (origin here path) (Path.segments path)
  match t.find? place with
  | some found => return found
  | none => throw .missing

/-- The place that a path would make or replace, the directory around it being there. `none` is a
place that is a directory in any case. -/
def target (t : FileTree) (here : List String) (path : String) :
    Except FileFault (Option (List String)) := do
  checkPath path
  match (Path.segments path).reverse.dropWhile (· = "") with
  | [] => return none
  | name :: around =>
    let place ← t.walk (origin here path) (around.reverse ++ ["."])
    if name = "." ∨ name = ".." then return none
    else if name.utf8ByteSize > nameLimit then throw .nameTooLong
    else return some (place ++ [name])

/-! ### Operations -/

def read (t : FileTree) (here : List String) (path : String) : Except FileFault ByteArray := do
  match ← t.resolve here path with
  | file bytes => return bytes
  | directory _ => throw .isDirectory

def isPresent (t : FileTree) (here : List String) (path : String) : Bool :=
  (t.resolve here path).toBool

def isDirectory (t : FileTree) (here : List String) (path : String) : Bool :=
  match t.resolve here path with
  | .ok (directory _) => true
  | _ => false

def names (t : FileTree) (here : List String) (path : String) :
    Except FileFault (List String) := do
  match ← t.resolve here path with
  | file _ => throw .notDirectory
  | directory entries => return entries.map Prod.fst

def makeDirectory (t : FileTree) (here : List String) (path : String) :
    Except FileFault FileTree := do
  match ← t.target here path with
  | none => throw .present
  | some place =>
    if (t.find? place).isSome then throw .present else return t.put place (directory [])

/-- Write a file, new or in place of an old one. -/
def write (t : FileTree) (here : List String) (path : String) (bytes : ByteArray) :
    Except FileFault FileTree := do
  match ← t.target here path with
  | none => throw .isDirectory
  | some place =>
    match t.find? place, path.toList.getLast? with
    | some (directory _), _ | _, some '/' => throw .isDirectory
    | _, _ => return t.put place (file bytes)

mutual

/-- The files with the names that lead to them. -/
def files : FileTree → List (List String × ByteArray)
  | file bytes => [([], bytes)]
  | directory entries => filesOf entries

def filesOf : List (String × FileTree) → List (List String × ByteArray)
  | [] => []
  | (name, t) :: entries => (files t).map (fun f => (name :: f.1, f.2)) ++ filesOf entries

end

end FileTree

end ClassInference
