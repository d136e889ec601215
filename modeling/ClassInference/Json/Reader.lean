import ClassInference.Binary64.Arithmetic
import ClassInference.Json.Value
import ClassInference.Json.Fault

/-!
# Reading JSON tokens

A reader walks over the bytes of a text. It stops at the first fault and keeps the place that it has
reached, because an enclosing value still tries to close there. Loops are bounded by the bytes that
are left: every round but the last reads at least one.
-/

namespace ClassInference.Json

/-- A step from a value to a part of it. -/
inductive Step where
  | key (name : String)
  | index (i : Nat)
  /-- Between the entries of an object, where no key is known yet. -/
  | unknown
deriving Repr, DecidableEq

/-- A fault on its way out: the enclosing values supply the place and the path that it lacks. -/
structure Failure where
  fault : Fault
  index : Option Nat
  path : Option (List Step)

abbrev Reader (α : Type) := ReaderT ByteArray (EStateM Failure Nat) α

namespace Reader

/-- The next byte, seen as a character. -/
def peek : Reader (Option Char) := do
  let text ← read
  let i ← get
  if h : i < text.size then return some (Char.ofNat text[i].toNat) else return none

def skip : Reader Unit := modify (· + 1)

/-- Read the next byte. -/
def next : Reader (Option Char) := do
  let c ← peek
  if c.isSome then skip
  return c

/-- A fault at what has been read so far. -/
def fail {α : Type} (fault : Fault) : Reader α := do throw ⟨fault, some (← get), none⟩

/-- A fault at the next byte, which counts as read unless the text ends here. -/
def failPeek {α : Type} (fault : Fault) : Reader α := do
  throw ⟨fault, some (min (← read).size ((← get) + 1)), none⟩

/-- A fault whose place the enclosing value settles. -/
def failUnplaced {α : Type} (fault : Fault) : Reader α := throw ⟨fault, none, none⟩

private def rounds {σ α : Type} (body : σ → Reader (σ ⊕ α)) : Nat → σ → Reader α
  | 0, _ => fail GrammarFault.endInValue
  | n + 1, s => do
    match ← body s with
    | .inl s => rounds body n s
    | .inr a => return a

/-- Repeat `body` until it answers on the right. -/
def loop {σ α : Type} (body : σ → Reader (σ ⊕ α)) (s : σ) : Reader α := do
  rounds body ((← read).size - (← get) + 1) s

def isSpace (c : Char) : Bool := c = ' ' || c = '\t' || c = '\n' || c = '\r'

/-- Skip the white space of the grammar. -/
def skipSpace : Reader Unit :=
  loop (fun _ => do
    match ← peek with
    | some c => if isSpace c then skip; return .inl () else return .inr ()
    | none => return .inr ()) ()

/-- The rest of a literal name whose first letter has been read. -/
def identifier : List Char → Reader Unit
  | [] => return
  | c :: rest => do
    match ← next with
    | none => fail GrammarFault.endInValue
    | some d => if d = c then identifier rest else fail GrammarFault.expectedIdentifier

/-! ### Numbers -/

/-- A significand keeps the leading digits of a number for as long as they stay below this. -/
def significandLimit : Nat := Nat.pow 2 64

/-- Digits after those of `start`, as long as the number that they form is a significand: it, their
count, and whether a digit is left over. -/
def digits (start : Nat) : Reader (Nat × Nat × Bool) :=
  loop (fun (value, count) => do
    match ← peek with
    | some c =>
      if c.isDigit then
        let longer := value * 10 + (c.toNat - '0'.toNat)
        if longer < significandLimit then
          skip
          return .inl (longer, count + 1)
        else return .inr (value, count, true)
      else return .inr (value, count, false)
    | none => return .inr (value, count, false)) (start, 0)

/-- Skip digits and count them. -/
def skipDigits : Reader Nat :=
  loop (fun count => do
    match ← peek with
    | some c =>
      if c.isDigit then
        skip
        return .inl (count + 1)
      else return .inr count
    | none => return .inr count) 0

/-- The largest exponent that is still added up. -/
def exponentLimit : Nat := Nat.pow 2 31 - 1

/-- The digits of an exponent after the first. An exponent past the limit is out of range if it
makes the number larger, and makes it zero otherwise. -/
def exponentDigits (start : Nat) (vanishes : Bool) : Reader (Option Nat) :=
  loop (fun value => do
    match ← peek with
    | some c =>
      if c.isDigit then
        skip
        match value with
        | none => return .inl none
        | some v =>
          let v := v * 10 + (c.toNat - '0'.toNat)
          if v ≤ exponentLimit then return .inl (some v)
          else if vanishes then return .inl none
          else fail GrammarFault.numberOutOfRange
      else return .inr value
    | none => return .inr value) (some start)

/-- A significand scaled by a power of ten. -/
def scaled (negative : Bool) (significand : Nat) (power : Int) : Reader Number :=
  match (Binary64.ofQuotient? false significand 1).bind (·.scaleTen? power) with
  | some x => return .binary { x with negative := negative }
  | none => fail GrammarFault.numberOutOfRange

/-- The exponent part, its letter being next; the significand has a power of ten already. -/
def exponent (negative : Bool) (significand : Nat) (power : Int) : Reader Number := do
  skip
  let down ← match ← peek with
    | some '+' => do skip; pure false
    | some '-' => do skip; pure true
    | _ => pure false
  match ← next with
  | none => fail GrammarFault.endInValue
  | some c =>
    if !c.isDigit then fail GrammarFault.invalidNumber
    else
      match ← exponentDigits (c.toNat - '0'.toNat) (significand == 0 || down) with
      | none => return .binary (.zero negative)
      | some e => scaled negative significand (power + if down then -(e : Int) else e)

/-- An exponent part, if there is one. -/
def exponentIfAny (negative : Bool) (significand : Nat) (power : Int) : Reader Number := do
  match ← peek with
  | some 'e' | some 'E' => exponent negative significand power
  | _ => scaled negative significand power

/-- The fraction and what follows it, the point being next. Digits that the significand has no room
for count for nothing. -/
def fraction (negative : Bool) (significand : Nat) (power : Int) : Reader Number := do
  skip
  let (significand, places, more) ← digits significand
  if more then
    let _ ← skipDigits
    exponentIfAny negative significand (power - places)
  else if places = 0 then
    match ← peek with
    | some _ => failPeek GrammarFault.invalidNumber
    | none => failPeek GrammarFault.endInValue
  else exponentIfAny negative significand (power - places)

/-- What follows the whole digits when all of them are in the significand. -/
def afterWhole (negative : Bool) (significand : Nat) : Reader Number := do
  match ← peek with
  | some '.' => fraction negative significand 0
  | some 'e' | some 'E' => exponent negative significand 0
  | _ =>
    let n : Int := if negative then -(significand : Int) else significand
    if h : Number.Fits n then
      if negative && significand == 0 then return .binary (.zero true) else return .whole n h
    else scaled negative significand 0

/-- What follows the whole digits when the significand has no room for the last ones. Each of these
counts as a power of ten. -/
def afterLongWhole (negative : Bool) (significand : Nat) : Reader Number := do
  let dropped ← skipDigits
  match ← peek with
  | some '.' => fraction negative significand dropped
  | _ => exponentIfAny negative significand dropped

/-- A number after its sign. -/
def number (negative : Bool) : Reader Number := do
  match ← next with
  | none => fail GrammarFault.endInValue
  | some '0' =>
    match ← peek with
    | some c => if c.isDigit then failPeek GrammarFault.invalidNumber else afterWhole negative 0
    | none => afterWhole negative 0
  | some c =>
    if c.isDigit then
      let (significand, _, more) ← digits (c.toNat - '0'.toNat)
      if more then afterLongWhole negative significand else afterWhole negative significand
    else fail GrammarFault.invalidNumber

/-! ### Strings -/

private def hexDigit? (c : Char) : Option Nat :=
  if '0' ≤ c && c ≤ '9' then some (c.toNat - '0'.toNat)
  else if 'a' ≤ c && c ≤ 'f' then some (c.toNat - 'a'.toNat + 10)
  else if 'A' ≤ c && c ≤ 'F' then some (c.toNat - 'A'.toNat + 10)
  else none

/-- Four hexadecimal digits, all of them read before any is judged. -/
def hexFour : Reader Nat := do
  if (← read).size - (← get) < 4 then
    set (← read).size
    fail GrammarFault.endInString
  else
    let cs := [← next, ← next, ← next, ← next]
    match cs.mapM fun c => c.bind hexDigit? with
    | some ds => return ds.foldl (fun n d => n * 16 + d) 0
    | none => fail GrammarFault.invalidEscape

/-- The byte `c`, or the end of the text, between the two escapes of a surrogate pair. -/
private def pairByte (c : Char) : Reader Unit := do
  match ← next with
  | none => fail GrammarFault.endInString
  | some d => if d = c then return else fail GrammarFault.unfinishedSurrogate

/-- The character of a hexadecimal escape; a leading surrogate needs its partner. -/
def unicodeEscape : Reader Char := do
  let n ← hexFour
  if 0xDC00 ≤ n && n ≤ 0xDFFF then fail GrammarFault.loneSurrogate
  else if 0xD800 ≤ n && n ≤ 0xDBFF then
    pairByte '\\'
    pairByte 'u'
    let m ← hexFour
    if 0xDC00 ≤ m && m ≤ 0xDFFF then
      return Char.ofNat ((n - 0xD800) * 0x400 + (m - 0xDC00) + 0x10000)
    else fail GrammarFault.loneSurrogate
  else return Char.ofNat n

/-- What an escape stands for, its backslash having been read. -/
def escape : Reader Char := do
  match ← next with
  | none => fail GrammarFault.endInString
  | some '"' => return '"'
  | some '\\' => return '\\'
  | some '/' => return '/'
  | some 'b' => return '\x08'
  | some 'f' => return '\x0c'
  | some 'n' => return '\n'
  | some 'r' => return '\r'
  | some 't' => return '\t'
  | some 'u' => unicodeEscape
  | some _ => fail GrammarFault.invalidEscape

/-- How many bytes from the start are characters in full. -/
def validBytes (bytes : ByteArray) : Nat :=
  ((List.range (bytes.size + 1)).reverse.find? fun n =>
    (String.fromUTF8? (bytes.extract 0 n)).isSome).getD 0

/-- The rest of a string whose opening quote has been read. Bytes that are no characters are found
out at the closing quote, and their place is counted back from there. -/
def stringBody : Reader String := do
  let bytes ← loop (fun (acc : ByteArray) => do
    if (← peek) = some '"' then return .inr acc
    else
      match ← next with
      | none => fail GrammarFault.endInString
      | some '\\' => return .inl (acc ++ (← escape).toString.toUTF8)
      | some c =>
        if c.toNat < 0x20 then fail GrammarFault.controlCharacter
        else return .inl (acc.push c.toNat.toUInt8)) ByteArray.empty
  match String.fromUTF8? bytes with
  | some s =>
    skip
    return s
  | none =>
    let place := (← get) + 1 - (bytes.size - validBytes bytes)
    throw ⟨GrammarFault.invalidCodePoint, some place, none⟩

/-! ### Brackets -/

/-- Whether another item of a list follows, up to its first byte. -/
def moreItems (first : Bool) : Reader Bool := do
  skipSpace
  match ← peek, first with
  | none, _ => failPeek GrammarFault.endInList
  | some ']', _ => return false
  | some _, true => return true
  | some ',', false =>
    skip
    skipSpace
    match ← peek with
    | some ']' => failPeek GrammarFault.trailingComma
    | some _ => return true
    | none => failPeek GrammarFault.endInValue
  | some _, false => failPeek GrammarFault.expectedListComma

/-- Whether another member of an object follows, up to the quote of its key. -/
def moreMembers (first : Bool) : Reader Bool := do
  skipSpace
  match ← peek, first with
  | none, _ => failPeek GrammarFault.endInObject
  | some '}', _ => return false
  | some _, true => keyQuote
  | some ',', false =>
    skip
    skipSpace
    keyQuote
  | some _, false => failPeek GrammarFault.expectedObjectComma
where
  keyQuote : Reader Bool := do
    match ← peek with
    | some '"' => return true
    | some '}' => failPeek GrammarFault.trailingComma
    | some _ => failPeek GrammarFault.keyNotString
    | none => failPeek GrammarFault.endInValue

/-- A key, its quote being next. -/
def key : Reader String := do
  skip
  stringBody

def colon : Reader Unit := do
  skipSpace
  match ← peek with
  | some ':' => skip
  | some _ => failPeek GrammarFault.expectedColon
  | none => failPeek GrammarFault.endInObject

def closeList : Reader Unit := do
  skipSpace
  match ← peek with
  | some ']' => skip
  | some ',' =>
    skip
    skipSpace
    match ← peek with
    | some ']' => failPeek GrammarFault.trailingComma
    | _ => failPeek GrammarFault.trailingCharacters
  | some _ => failPeek GrammarFault.trailingCharacters
  | none => failPeek GrammarFault.endInList

def closeObject : Reader Unit := do
  skipSpace
  match ← peek with
  | some '}' => skip
  | some ',' => failPeek GrammarFault.trailingComma
  | some _ => failPeek GrammarFault.trailingCharacters
  | none => failPeek GrammarFault.endInObject

/-- A fault that has no place yet gets the one reached. -/
def placed {α : Type} (r : Reader α) : Reader α :=
  tryCatch r fun e => do throw { e with index := some (e.index.getD (← get)) }

/-- Read a bracketed value from its opening byte to its close. The close is tried after a fault
too, and what it reads counts towards the place of a fault that has none. -/
def enclosed {α : Type} (inside : Reader α) (close : Reader Unit) : Reader α :=
  placed do
    skip
    let a ← tryCatch inside fun e => do
      tryCatch close fun _ => return
      throw e
    close
    return a

/-- Read a text from its first byte. -/
def run {α : Type} (r : Reader α) (text : ByteArray) :
    Except (SyntaxError × Option (List Step)) α :=
  match r text 0 with
  | .ok a _ => .ok a
  | .error e i => .error (SyntaxError.at text (e.index.getD i) e.fault, e.path)

end Reader

end ClassInference.Json
