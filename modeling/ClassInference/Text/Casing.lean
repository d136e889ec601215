import ClassInference.Text.Casing.Tables

/-!
# Case maps

Full case maps: the capital or small form of one character may be several characters. Lowering a
word also knows the sigma that ends it.
-/

namespace ClassInference.Text

def isCapital (c : Char) : Bool := CodeRun.covers capitalRuns c

def isSmall (c : Char) : Bool := CodeRun.covers smallRuns c

/-- A character that has case: capital, small or title case. -/
def isCased (c : Char) : Bool := isCapital c || isSmall c || CodeRun.covers titleRuns c

def isCaseIgnorable (c : Char) : Bool := CodeRun.covers caseIgnorableRuns c

/-- The character that `c` maps to under the first run of `shifts` that holds it. -/
def CaseShift.apply (shifts : List CaseShift) (c : Char) : Char :=
  match shifts.find? (·.run.contains c.toNat) with
  | some s => Char.ofNat (c.toNat + s.shift).toNat
  | none => c

theorem CaseShift.apply_cases (shifts : List CaseShift) (c : Char) :
    apply shifts c = c ∨
      ∃ s ∈ shifts, s.run.contains c.toNat = true ∧
        apply shifts c = Char.ofNat (c.toNat + s.shift).toNat := by
  unfold apply
  cases hs : shifts.find? (·.run.contains c.toNat) with
  | none => exact .inl rfl
  | some s =>
      have hcontains := List.find?_some hs
      exact .inr ⟨s, List.mem_of_find?_eq_some hs, hcontains, rfl⟩

private def mapCase (shifts : List CaseShift) (expansions : List (Nat × List Nat)) (c : Char) :
    List Char :=
  match expansions.lookup c.toNat with
  | some codes => codes.map Char.ofNat
  | none => [CaseShift.apply shifts c]

/-- The capital form of a character. -/
def capitalForm (c : Char) : List Char := mapCase capitalShifts capitalExpansions c

private theorem mapCase_eq (shifts : List CaseShift) (expansions : List (Nat × List Nat))
    (c : Char) :
    mapCase shifts expansions c = (expansions.lookup c.toNat).elim [CaseShift.apply shifts c]
      (·.map Char.ofNat) := by
  unfold mapCase
  cases expansions.lookup c.toNat <;> rfl

theorem capitalForm_eq (c : Char) :
    capitalForm c = (capitalExpansions.lookup c.toNat).elim [CaseShift.apply capitalShifts c]
      (·.map Char.ofNat) :=
  mapCase_eq capitalShifts capitalExpansions c

/-- The small form of a character, wherever it stands. -/
def smallForm (c : Char) : List Char := mapCase smallShifts smallExpansions c

theorem smallForm_eq (c : Char) :
    smallForm c = (smallExpansions.lookup c.toNat).elim [CaseShift.apply smallShifts c]
      (·.map Char.ofNat) :=
  mapCase_eq smallShifts smallExpansions c

/-- Whether a cased character follows, past everything that case ignores. -/
def casedAhead (cs : List Char) : Bool :=
  match cs.dropWhile isCaseIgnorable with
  | [] => false
  | c :: _ => isCased c

/-- The small form of `c` between `before`, nearest first, and `after`: a capital sigma at the end
of a word becomes the final small sigma. -/
def smallFormIn (before : List Char) (c : Char) (after : List Char) : List Char :=
  if c = 'Σ' then (if casedAhead before && !casedAhead after then ['ς'] else ['σ'])
  else smallForm c

private def lowerFrom (before : List Char) : List Char → List Char
  | [] => []
  | c :: after => smallFormIn before c after ++ lowerFrom (c :: before) after

/-- A whole text in small letters. -/
def lower (cs : List Char) : List Char := lowerFrom [] cs

/-- What holds of a text in small letters because each of its characters has some small form, which
one depending on what stands around it. -/
theorem lower_induction {motive : List Char → List Char → Prop} (nil : motive [] [])
    (cons : ∀ before c after out, motive after out →
      motive (c :: after) (smallFormIn before c after ++ out)) (cs : List Char) :
    motive cs (lower cs) := by
  suffices h : ∀ before, motive cs (lowerFrom before cs) from h []
  induction cs with
  | nil => exact fun _ => nil
  | cons c cs ih => exact fun before => cons before c cs _ (ih (c :: before))

end ClassInference.Text
