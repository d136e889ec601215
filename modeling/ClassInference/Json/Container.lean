import ClassInference.Json.Reader

/-!
# Lists and objects of a text

Reading the entries of a bracketed value in order while keeping track of the path. A fault gets the
path of the innermost value in which it arises; between the entries of an object that is a part not
yet known.
-/

namespace ClassInference.Json

/-- A reader that is told the path of the value that it reads, innermost step first. -/
abbrev Decoder (α : Type) := List Step → Reader α

/-- The text of a path. -/
def Step.render (path : List Step) : String :=
  if path.isEmpty then "."
  else
    path.reverse.foldl (fun (out : String) step =>
      let dotted := fun name => if out.isEmpty then name else out ++ "." ++ name
      match step with
      | .key name => dotted name
      | .index i => out ++ "[" ++ toString i ++ "]"
      | .unknown => dotted "?") ""

namespace Reader

/-- A fault that has no path yet gets this one. -/
def located {α : Type} (path : List Step) (r : Reader α) : Reader α :=
  tryCatch r fun e => throw { e with path := some (e.path.getD path) }

/-- Fold over the items of a list up to its closing bracket. -/
def foldItems {σ : Type} (path : List Step) (item : σ → Decoder σ) (s : σ) : Reader σ :=
  loop (fun ((i, s) : Nat × σ) => do
    if ← moreItems (i == 0) then return .inl (i + 1, ← item s (.index i :: path))
    else return .inr s) (0, s)

/-- Fold over the members of an object up to its closing brace. `member` starts before the colon. -/
def foldMembers {σ : Type} (path : List Step) (member : σ → String → Reader σ) (s : σ) :
    Reader σ :=
  loop (fun ((first, s) : Bool × σ) => do
    if ← located (.unknown :: path) (moreMembers first) then
      let k ← located (.unknown :: path) key
      return .inl (false, ← member s k)
    else return .inr s) (true, s)

end Reader

end ClassInference.Json
