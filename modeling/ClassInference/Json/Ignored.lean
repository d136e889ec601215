import ClassInference.Json.Reader

/-!
# Values that are passed over

Skipping a value that nobody asked for. Only its grammar is checked: numbers may be out of range,
escapes may stand for no character, and there is no limit to the nesting, since the open brackets
are kept in a list.
-/

namespace ClassInference.Json

namespace Reader

/-- A bracket that is open. -/
inductive Bracket where
  | list
  | object
deriving Repr, DecidableEq

def Bracket.closing : Bracket → Char
  | list => ']'
  | object => '}'

def Bracket.endFault : Bracket → GrammarFault
  | list => .endInList
  | object => .endInObject

def Bracket.commaFault : Bracket → GrammarFault
  | list => .expectedListComma
  | object => .expectedObjectComma

/-- A fraction, its point being next. -/
def skipFraction : Reader Unit := do
  skip
  if (← skipDigits) = 0 then failPeek GrammarFault.invalidNumber

/-- An exponent, its letter being next. -/
def skipExponent : Reader Unit := do
  skip
  match ← peek with
  | some '+' | some '-' => skip
  | _ => pure ()
  match ← next with
  | some c => if c.isDigit then discard skipDigits else fail GrammarFault.invalidNumber
  | none => fail GrammarFault.invalidNumber

/-- A number after its sign. -/
def skipNumber : Reader Unit := do
  match ← next with
  | some '0' =>
    match ← peek with
    | some c => if c.isDigit then failPeek GrammarFault.invalidNumber
    | none => pure ()
  | some c => if c.isDigit then discard skipDigits else fail GrammarFault.invalidNumber
  | none => fail GrammarFault.invalidNumber
  if (← peek) = some '.' then skipFraction
  match ← peek with
  | some 'e' | some 'E' => skipExponent
  | _ => pure ()

/-- The rest of a string whose opening quote has been read. -/
def skipString : Reader Unit :=
  loop (fun _ => do
    match ← peek with
    | none => fail GrammarFault.endInString
    | some '"' =>
      skip
      return .inr ()
    | some '\\' =>
      skip
      match ← next with
      | none => fail GrammarFault.endInString
      | some 'u' =>
        let _ ← hexFour
        return .inl ()
      | some c =>
        if ['"', '\\', '/', 'b', 'f', 'n', 'r', 't'].contains c then return .inl ()
        else fail GrammarFault.invalidEscape
    | some c =>
      if c.toNat < 0x20 then fail GrammarFault.controlCharacter
      else
        skip
        return .inl ()) ()

/-- A value that is no bracket, or the opening bracket of one that is. -/
def skipHead : Reader (Option Bracket) := do
  skipSpace
  match ← peek with
  | none => failPeek GrammarFault.endInValue
  | some 'n' =>
    skip
    identifier ['u', 'l', 'l']
    return none
  | some 't' =>
    skip
    identifier ['r', 'u', 'e']
    return none
  | some 'f' =>
    skip
    identifier ['a', 'l', 's', 'e']
    return none
  | some '-' =>
    skip
    skipNumber
    return none
  | some '"' =>
    skip
    skipString
    return none
  | some '[' =>
    skip
    return some .list
  | some '{' =>
    skip
    return some .object
  | some c =>
    if c.isDigit then
      skipNumber
      return none
    else failPeek GrammarFault.expectedValue

/-- Close brackets until an entry has to follow. After a value a comma comes first; after an opening
bracket it does not. -/
def skipClosings (afterValue : Bool) (opened : List Bracket) : Reader (List Bracket) :=
  loop (fun ((afterValue, opened) : Bool × List Bracket) => do
    match opened with
    | [] => return .inr []
    | bracket :: outer =>
      skipSpace
      match ← peek with
      | none => failPeek bracket.endFault
      | some c =>
        if c = ',' && afterValue then
          skip
          return .inr opened
        else if c = bracket.closing then
          skip
          return .inl (true, outer)
        else if afterValue then failPeek bracket.commaFault
        else return .inr opened) (afterValue, opened)

/-- The key and the colon of a member. -/
def skipKey : Reader Unit := do
  skipSpace
  match ← peek with
  | some '"' => skip
  | some _ => failPeek GrammarFault.keyNotString
  | none => failPeek GrammarFault.endInObject
  skipString
  colon

/-- Skip a value. -/
def ignored : Reader Unit :=
  loop (fun (opened : List Bracket) => do
    let left ← match ← skipHead with
      | some bracket => skipClosings false (bracket :: opened)
      | none => skipClosings true opened
    match left with
    | [] => return .inr ()
    | bracket :: _ =>
      if bracket = .object then skipKey
      return .inl left) []

end Reader

end ClassInference.Json
