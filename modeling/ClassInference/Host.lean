import ClassInference.FileFault

/-!
# Hosts

What a run needs of the system that it runs on: files, directories and the standard input. Whatever
answers these questions can host a run.
-/

namespace ClassInference

class Host (m : Type → Type) where
  read : String → m (Except FileFault ByteArray)
  /-- All that is left of the standard input. -/
  readInput : m (Except FileFault ByteArray)
  write : String → ByteArray → m (Except FileFault Unit)
  makeDirectory : String → m (Except FileFault Unit)
  isPresent : String → m Bool
  isDirectory : String → m Bool
  /-- The names in a directory, in any order. -/
  names : String → m (Except FileFault (List String))

namespace Host

variable {m : Type → Type} [Monad m] [Host m]

/-- Make a directory inside directories that are there. One that is there already will do. -/
def ensureDirectory (path : String) : m (Except FileFault Unit) := do
  match ← makeDirectory path with
  | .ok () => return .ok ()
  | .error fault => return if ← isDirectory path then .ok () else .error fault

/-- Make the first of some directories, each of which lies in the next. Those further out are made
only if the first cannot be made without them. -/
def ensureDirectories : List String → m (Except FileFault Unit)
  | [] => return .ok ()
  | path :: outer => do
    match ← ensureDirectory (m := m) path with
    | .error .missing =>
      match ← ensureDirectories outer with
      | .ok () => ensureDirectory path
      | .error fault => return .error fault
    | result => return result

end Host

end ClassInference
