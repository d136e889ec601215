import ClassInference.Query.Datum
import ClassInference.Text.Blank

/-!
# Tokens of filters

A filter text is cut into words, variables, literals, field accesses and symbols. All operator
characters in a row make one symbol. Comments run to the end of their line, and further if the line
ends in an odd number of backslashes.
-/

namespace ClassInference.Query

/-- A number as a filter spells it: its text, and its value as digits times a power of ten. -/
structure Numeral where
  text : String
  digits : Nat
  power : Int
deriving Repr, DecidableEq

/-- Digits alone are an integer if it fits a word; any other number keeps its text. -/
def Numeral.datum (n : Numeral) : Datum :=
  if h : n.text.toList.all Char.isDigit = true ∧ Word n.digits then .integer n.digits h.2
  else .numeral n.text (.ofDecimal n.digits n.power)

inductive Token where
  | word (name : String)
  | variable (name : String)
  /-- A dot with the name of a field right after it. -/
  | field (name : String)
  | number (n : Numeral)
  | text (s : String)
  | symbol (s : String)
deriving Repr, DecidableEq

namespace Token

def isWordStart (c : Char) : Bool := c.isAlpha || c == '_'

def isWordChar (c : Char) : Bool := c.isAlphanum || c == '_'

def isOperator (c : Char) : Bool := "|=!<>+-*/%".toList.contains c

/-- Characters that are symbols by themselves. -/
def isMark (c : Char) : Bool := ".,:;?()[]\x7b\x7d".toList.contains c

private def digitsValue (ds : List Char) : Nat :=
  ds.foldl (fun n d => n * 10 + (d.toNat - '0'.toNat)) 0

/-- The point and the digits after it, if the text goes on with a point. -/
private def fraction? : List Char → Option (List Char × List Char)
  | '.' :: rest =>
    let digits := rest.takeWhile Char.isDigit
    if digits.isEmpty then none else some (digits, rest.drop digits.length)
  | rest => some ([], rest)

/-- The exponent of a number, if the text goes on with one. -/
private def exponent? : List Char → Option (Int × List Char)
  | c :: rest =>
    if c = 'e' || c = 'E' then
      let (down, rest) := match rest with
        | '-' :: rest => (true, rest)
        | '+' :: rest => (false, rest)
        | rest => (false, rest)
      let digits := rest.takeWhile Char.isDigit
      if digits.isEmpty then none
      else
        let e : Int := digitsValue digits
        some (if down then -e else e, rest.drop digits.length)
    else some (0, c :: rest)
  | [] => some (0, [])

/-- A number that starts with a digit. -/
def number? (cs : List Char) : Option (Token × List Char) := do
  let whole := cs.takeWhile Char.isDigit
  let (fraction, rest) ← fraction? (cs.drop whole.length)
  let (exponent, rest) ← exponent? rest
  return (.number {
    text := String.ofList (cs.take (cs.length - rest.length))
    digits := digitsValue (whole ++ fraction)
    power := exponent - fraction.length }, rest)

private def hexValue? (cs : List Char) : Option Nat :=
  cs.foldlM (fun n c =>
    if '0' ≤ c && c ≤ '9' then some (n * 16 + (c.toNat - '0'.toNat))
    else if 'a' ≤ c && c ≤ 'f' then some (n * 16 + (c.toNat - 'a'.toNat + 10))
    else if 'A' ≤ c && c ≤ 'F' then some (n * 16 + (c.toNat - 'A'.toNat + 10))
    else none) 0

/-- The rest of a string after its opening quote: the text, reversed in `acc` so far, and what
follows the closing quote. -/
def string? (acc : List Char) : List Char → Option (String × List Char)
  | [] => none
  | '"' :: rest => some (String.ofList acc.reverse, rest)
  | '\\' :: '"' :: rest => string? ('"' :: acc) rest
  | '\\' :: '\\' :: rest => string? ('\\' :: acc) rest
  | '\\' :: '/' :: rest => string? ('/' :: acc) rest
  | '\\' :: 'b' :: rest => string? ('\x08' :: acc) rest
  | '\\' :: 'f' :: rest => string? ('\x0c' :: acc) rest
  | '\\' :: 'n' :: rest => string? ('\n' :: acc) rest
  | '\\' :: 'r' :: rest => string? ('\r' :: acc) rest
  | '\\' :: 't' :: rest => string? ('\t' :: acc) rest
  | '\\' :: 'u' :: a :: b :: c :: d :: rest =>
    match hexValue? [a, b, c, d] with
    | some n => if n.isValidChar then string? (Char.ofNat n :: acc) rest else none
    | none => none
  | '\\' :: _ => none
  | c :: rest => string? (c :: acc) rest

/-- The name at the start of a text, and what follows it. -/
def name? : List Char → Option (String × List Char)
  | [] => none
  | c :: cs =>
    if isWordStart c then
      let name := c :: cs.takeWhile isWordChar
      some (String.ofList name, (c :: cs).drop name.length)
    else none

/-- The first token of a text that starts with no blank, and what follows it. -/
def first? (cs : List Char) : Option (Token × List Char) :=
  match cs with
  | [] => none
  | '"' :: rest => (string? [] rest).map fun (s, rest) => (.text s, rest)
  | '$' :: rest => (name? rest).map fun (name, rest) => (.variable name, rest)
  | c :: rest =>
    if c.isDigit then number? cs
    else if isOperator c then
      let symbol := c :: rest.takeWhile isOperator
      some (.symbol (String.ofList symbol), cs.drop symbol.length)
    else
      match name? cs with
      | some (name, rest) => some (.word name, rest)
      | none =>
        match c, name? rest with
        | '.', some (name, rest) => some (.field name, rest)
        | _, _ => if isMark c then some (.symbol (String.ofList [c]), rest) else none

/-- Whether a comment goes on after a line. A carriage return at the end of the line is no part of
it. -/
def goesOn (line : List Char) : Bool :=
  let line := match line.reverse with
    | '\r' :: rest => rest
    | rest => rest
  (line.takeWhile (· = '\\')).length % 2 = 1

/-- What follows a comment, its mark having been read; `line` is the line so far, in reverse. -/
def afterComment (line : List Char) : List Char → List Char
  | [] => []
  | '\n' :: rest => if goesOn line.reverse then afterComment [] rest else rest
  | c :: rest => afterComment (c :: line) rest

/-- The tokens of a text. Every round drops at least one character, so that as many rounds as there
are characters suffice. -/
private def scan : Nat → List Char → Option (List Token)
  | _, [] => some []
  | 0, _ :: _ => none
  | n + 1, c :: cs =>
    if Text.isBlank c then scan n cs
    else if c = '#' then scan n (afterComment [] cs)
    else do
      let (token, rest) ← first? (c :: cs)
      return token :: (← scan n rest)

/-- Cut a filter into tokens; none if some part of it is no token. -/
def all? (filter : String) : Option (List Token) := scan filter.length filter.toList

end Token

end ClassInference.Query
