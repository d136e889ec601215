import ClassInference.Text.CodeRun

/-!
# Blanks

The property White_Space of Unicode, and trimming by it.
-/

namespace ClassInference.Text

/-- The characters with the property White_Space. -/
def blankRuns : List CodeRun := [
  ⟨0x9, 0xd, 1⟩, ⟨0x20, 0x20, 1⟩, ⟨0x85, 0x85, 1⟩, ⟨0xa0, 0xa0, 1⟩, ⟨0x1680, 0x1680, 1⟩,
  ⟨0x2000, 0x200a, 1⟩, ⟨0x2028, 0x2029, 1⟩, ⟨0x202f, 0x202f, 1⟩, ⟨0x205f, 0x205f, 1⟩,
  ⟨0x3000, 0x3000, 1⟩]

def isBlank (c : Char) : Bool := CodeRun.covers blankRuns c

/-- A text of blanks only; the empty text is one. -/
def isBlankText (cs : List Char) : Bool := cs.all isBlank

end ClassInference.Text
