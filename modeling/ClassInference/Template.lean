/-!
# Templates

A template is text with slots, a name in braces each. Filling puts a value into every slot that has
one and leaves all else as it stands; what has been put in is not looked at again.
-/

namespace ClassInference

namespace Template

/-- Slot names are made of ASCII letters, digits and underscores. -/
def isSlotChar (c : Char) : Bool := c.isAlphanum || c == '_'

/-- A character to copy, or a slot. -/
inductive Piece where
  | char (c : Char)
  | slot (name : List Char)
deriving Repr, DecidableEq

/-- The slot that a brace opens, if the text after the brace is a name and a closing brace, with
what follows it. -/
def slot? (rest : List Char) : Option (List Char × List Char) :=
  match rest.takeWhile isSlotChar, rest.dropWhile isSlotChar with
  | c :: name, '}' :: after => some (c :: name, after)
  | _, _ => none

theorem length_lt_of_slot? {rest name after : List Char} (h : slot? rest = some (name, after)) :
    after.length < rest.length := by
  unfold slot? at h
  split at h
  · rename_i c n a _ hd
    have hle := (List.dropWhile_sublist isSlotChar (l := rest)).length_le
    simp only [Option.some.injEq, Prod.mk.injEq] at h
    rw [hd, List.length_cons, h.2] at hle
    omega
  · simp at h

/-- The pieces of a template in order. -/
def pieces : List Char → List Piece
  | [] => []
  | c :: rest =>
    if c = '{' then
      match h : slot? rest with
      | some (name, after) =>
        have := length_lt_of_slot? h
        .slot name :: pieces after
      | none => .char c :: pieces rest
    else .char c :: pieces rest
termination_by cs => cs.length
decreasing_by all_goals simp_wf <;> omega

/-- The text of a piece where the slots are bound as `vars` says, the first binding of a name
counting. -/
def Piece.fill (vars : List (String × String)) : Piece → List Char
  | .char c => [c]
  | .slot name =>
    match vars.lookup (String.ofList name) with
    | some value => value.toList
    | none => '{' :: (name ++ ['}'])

end Template

/-- Fill the slots of a template. -/
def fill (template : String) (vars : List (String × String)) : String :=
  String.ofList ((Template.pieces template.toList).flatMap (·.fill vars))

end ClassInference
