/-!
# Runs of code points

A character property is a list of runs. A run steps through every code point or through every
second one, so that alternating capital and small letters stay one entry.
-/

namespace ClassInference.Text

/-- The code points `first`, `first + step`, … up to `last`. -/
structure CodeRun where
  first : Nat
  last : Nat
  step : Nat
deriving Repr, DecidableEq

namespace CodeRun

def contains (run : CodeRun) (code : Nat) : Bool :=
  run.first ≤ code && code ≤ run.last && (code - run.first) % run.step == 0

theorem contains_iff {run : CodeRun} {code : Nat} :
    run.contains code = true ↔
      (run.first ≤ code ∧ code ≤ run.last) ∧ (code - run.first) % run.step = 0 := by
  simp [contains]

/-- A character has the property that `runs` lists. -/
def covers (runs : List CodeRun) (c : Char) : Bool :=
  runs.any (·.contains c.toNat)

theorem covers_iff (runs : List CodeRun) (c : Char) :
    covers runs c = true ↔ ∃ run ∈ runs, run.contains c.toNat = true := by
  simp [covers]

end CodeRun

end ClassInference.Text
