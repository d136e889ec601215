import ClassInference.Path

/-!
# Output paths

Where the file of a class goes: one directory for each part of its package, then the class name with
the extension of the dialect.
-/

namespace ClassInference

namespace OutputPath

/-- The parts of a package name, empty ones left out. -/
def packageParts (package : String) : List String :=
  ((Text.split (· == '.') package.toList).filter fun p => !p.isEmpty).map String.ofList

/-- The path of the file for a class. -/
def ofClass (root extension package name : String) : String :=
  Path.join ((packageParts package).foldl Path.join root) (name ++ "." ++ extension)

end OutputPath

end ClassInference
