import ClassInference.Text.Visible

/-!
# Quoted text

Text between double quotes as diagnostics show it. Quotes and backslashes are escaped, the common
controls and NUL have short escapes, and a character that would not be seen on its own is written
as its code point in braces.
-/

namespace ClassInference.Text

namespace Quoted

/-- Which quotes are escaped: the double quote always, the single quote only on request. -/
inductive Style where
  | double
  | both
deriving Repr, DecidableEq

/-- The text of `c` between the quotes. -/
def escape (style : Style) (c : Char) : List Char :=
  match c with
  | '\x00' => ['\\', '0']
  | '\t' => ['\\', 't']
  | '\r' => ['\\', 'r']
  | '\n' => ['\\', 'n']
  | '\\' => ['\\', '\\']
  | '"' => ['\\', '"']
  | '\x27' => if style = .both then ['\\', '\x27'] else ['\x27']
  | c =>
    if isVisible c then [c]
    else ['\\', 'u', '\x7b'] ++ Nat.toDigits 16 c.toNat ++ ['\x7d']

def encode (style : Style) (cs : List Char) : List Char :=
  '"' :: (cs.flatMap (escape style) ++ ['"'])

end Quoted

/-- A text as a message quotes it. -/
def quoted (s : String) : String := String.ofList (Quoted.encode .double s.toList)

/-- A path as a message quotes it: the single quote is escaped as well. -/
def quotedPath (s : String) : String := String.ofList (Quoted.encode .both s.toList)

end ClassInference.Text
