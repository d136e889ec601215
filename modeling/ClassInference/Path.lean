import ClassInference.Text.Split

/-!
# Paths

Paths as texts, read as the file system reads them. Segments stand between separators; an empty
segment and a `.` behind the first lead nowhere new. A path keeps its spelling wherever a part of it
is taken.
-/

namespace ClassInference

namespace Path

/-- What stands between the separators, empty pieces among it. -/
def segments (path : String) : List String :=
  (Text.split (· == '/') path.toList).map String.ofList

/-- A segment that leads nowhere new. -/
def isIdle (segment : String) : Bool := segment = "" || segment = "."

def isAbsolute (path : String) : Bool := path.toList.head? = some '/'

/-- The steps of a path, the root among them, idle segments left out. -/
def steps (path : String) : List String :=
  match segments path with
  | [] => []
  | first :: rest =>
    (if first ≠ "" then [first] else if rest = [] then [] else ["/"])
      ++ rest.filter fun s => !isIdle s

/-- A path with one more part: an absolute part starts afresh, and a separator is added only where
one is missing. -/
def join (path part : String) : String :=
  if isAbsolute part then part
  else if path.isEmpty ∨ path.toList.getLast? = some '/' then path ++ part
  else path ++ "/" ++ part

/-- The text of segments, the last one first. -/
def ofReversed (segments : List String) : String :=
  if segments = [""] then "/" else String.intercalate "/" segments.reverse

/-- Paths of ever fewer segments, the last segment first. Idle segments at an end are passed over.
-/
def enclosingReversed : List String → List String
  | [] => []
  | s :: rest =>
    if isIdle s ∧ rest ≠ [] then enclosingReversed rest
    else ofReversed (s :: rest) :: enclosingReversed rest

/-- The path, the directory that holds it, the directory that holds that, and so on. -/
def enclosing (path : String) : List String :=
  if path.isEmpty then [] else enclosingReversed (segments path).reverse

/-- The directories that a path lies in, the nearest first. -/
def parents (path : String) : List String := (enclosing path).tail

end Path

end ClassInference
