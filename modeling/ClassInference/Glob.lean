import ClassInference.FileTree
import ClassInference.Glob.Pattern
import ClassInference.Host

/-!
# Globs

A path with patterns among its components, and the paths of a host that it stands for. Components
without wildcards are looked up as they are; the others are tried on the names in a directory in
their order. A `**` passes through any number of directories, its own results before those further
down.
-/

namespace ClassInference

/-- Patterns of components, and where they start from. -/
structure Glob where
  start : String
  patterns : List Glob.Pattern
  /-- Whether only directories count, as for a glob that ends in a separator. -/
  directoriesOnly : Bool
deriving Repr, DecidableEq

namespace Glob

/-- Whether an input is a glob at all. -/
def isGlob (text : String) : Bool := text.toList.any ['*', '?', '[', '{'].contains

/-- The components of a glob; what follows the last separator counts only if it is not empty. -/
def components (text : String) : List String :=
  let pieces := Path.segments (String.ofList
    (if Path.isAbsolute text then text.toList.drop 1 else text.toList))
  if pieces.getLast? = some "" then pieces.dropLast else pieces

/-- Read a glob. It must be a pattern as a whole and in each component. -/
def read (text : String) : Except PatternFault Glob := do
  let _ ← Pattern.read text
  return {
    start := if Path.isAbsolute text then "/" else "."
    patterns := ← (components text).mapM Pattern.read
    directoriesOnly := text.toList.getLast? = some '/' }

/-- A directory that cannot be listed. -/
structure ListingFault where
  path : String
  fault : FileFault
deriving Repr, DecidableEq

def ListingFault.message (f : ListingFault) : String :=
  "attempting to read `" ++ f.path ++ "` resulted in an error: " ++ f.fault.message

variable {m : Type → Type} [Monad m] [Host m]

/-- What a name in a directory is called. The starting directory is left out. -/
def child (path name : String) : String :=
  if Path.steps path = ["."] then name else Path.join path name

/-- The names in a directory in their order. -/
def names (path : String) : ExceptT ListingFault m (List String) := do
  match ← (Host.names path : m _) with
  | .ok names => return names.mergeSort fun a b => decide (a ≤ b)
  | .error fault => throw ⟨path, fault⟩

/-- The special names that a pattern stands for. It must ask for the dot. -/
def specials (p : Pattern) : List String :=
  if p.head? = some (.char '.') then ["..", "."].filter fun s => p.matches s.toList else []

/-- The paths below a path that patterns stand for. Each step takes a pattern away or goes down one
directory, which the length of paths bounds. -/
def expand (directoriesOnly : Bool) :
    Nat → String → List Pattern → ExceptT ListingFault m (List String)
  | 0, _, _ => return []
  | _ + 1, path, [] => do
    if directoriesOnly then
      if ← (Host.isDirectory path : m _) then return [path] else return []
    else return [path]
  | steps + 1, path, p :: rest => do
    match p.literal? with
    | some name =>
      let next := child path name
      let found ← if name = "." ∨ name = ".." then (Host.isDirectory path : m _)
        else (Host.isPresent next : m _)
      if found then expand directoriesOnly steps next rest else return []
    | none =>
      unless ← (Host.isDirectory path : m _) do return []
      let entries ← names path
      let special ← (specials p).flatMapM fun name =>
        expand directoriesOnly steps (Path.join path name) rest
      let inside ← entries.flatMapM fun name => do
        let below := child path name
        if p.isDeep then
          let rest := rest.dropWhile Pattern.isDeep
          let isDirectory ← (Host.isDirectory below : m _)
          let here ← match rest with
            | [] => pure (if isDirectory then [below] else [])
            | q :: rest =>
              if q.matches name.toList then expand directoriesOnly steps below rest else pure []
          let deeper ←
            if isDirectory then expand directoriesOnly steps below (p :: rest) else pure []
          return here ++ deeper
        else if p.matches name.toList then expand directoriesOnly steps below rest
        else return []
      return special ++ inside

/-- The paths that a glob stands for. -/
def paths (g : Glob) : ExceptT ListingFault m (List String) :=
  expand g.directoriesOnly (FileTree.pathLimit + g.patterns.length) g.start g.patterns

end Glob

end ClassInference
