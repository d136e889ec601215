import ClassInference.Json.Value
import ClassInference.Decimal.Notation

/-!
# Printing JSON

Two layouts: compact, and one member or item a line with two blanks for each level. Escapes are the
short ones where they exist and lower-case hexadecimal for the other controls; all else is printed
as it is.
-/

namespace ClassInference.Json

namespace Printer

private def hexPair (n : Nat) : List Char :=
  let digits := Nat.toDigits 16 n
  List.replicate (2 - digits.length) '0' ++ digits

def escape (c : Char) : List Char :=
  match c with
  | '"' => ['\\', '"']
  | '\\' => ['\\', '\\']
  | '\x08' => ['\\', 'b']
  | '\x0c' => ['\\', 'f']
  | '\n' => ['\\', 'n']
  | '\r' => ['\\', 'r']
  | '\t' => ['\\', 't']
  | c => if c.toNat < 0x20 then ['\\', 'u', '0', '0'] ++ hexPair c.toNat else [c]

def string (s : String) : String :=
  String.ofList ('"' :: (s.toList.flatMap escape ++ ['"']))

def number : Number → String
  | .whole n _ => toString n
  | .binary x => Decimal.render .json x

/-- How entries are set apart: line breaks with indentation, or nothing. -/
inductive Layout where
  | compact
  | pretty
deriving Repr, DecidableEq

namespace Layout

/-- The start of a line at a level of nesting. -/
def newline (level : Nat) : Layout → String
  | .compact => ""
  | .pretty => "\n" ++ String.ofList (List.replicate (2 * level) ' ')

def colon : Layout → String
  | .compact => ":"
  | .pretty => ": "

/-- Entries between brackets, each at the start of a line one level deeper. -/
def bracketed (layout : Layout) (level : Nat) (openMark closeMark : String)
    (entries : List String) : String :=
  if entries.isEmpty then openMark ++ closeMark
  else
    openMark ++ layout.newline (level + 1)
      ++ ("," ++ layout.newline (level + 1)).intercalate entries
      ++ layout.newline level ++ closeMark

end Layout

mutual

def value (layout : Layout) (level : Nat) : Value → String
  | .null => "null"
  | .bool b => if b then "true" else "false"
  | .number n => number n
  | .string s => string s
  | .array xs => layout.bracketed level "[" "]" (items layout (level + 1) xs)
  | .object ms => layout.bracketed level "\x7b" "\x7d" (members layout (level + 1) ms)

def items (layout : Layout) (level : Nat) : List Value → List String
  | [] => []
  | x :: xs => value layout level x :: items layout level xs

def members (layout : Layout) (level : Nat) : List (String × Value) → List String
  | [] => []
  | (k, x) :: ms => (string k ++ layout.colon ++ value layout level x) :: members layout level ms

end

end Printer

def Value.compact (v : Value) : String := Printer.value .compact 0 v

def Value.pretty (v : Value) : String := Printer.value .pretty 0 v

end ClassInference.Json
