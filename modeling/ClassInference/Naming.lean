import ClassInference.Text.Letter
import ClassInference.Text.Casing
import ClassInference.Text.Split

/-!
# Names from keys

A key is cut into words, the maximal runs of letters and numerals; everything else separates them.
The words are joined in camel case. A name never starts with a numeral and is never empty: an
underscore goes in front, or stands alone.
-/

namespace ClassInference.Naming

/-- Letters and numerals of any script make up words. -/
def isWordChar (c : Char) : Bool := Text.isLetter c || Text.isNumeral c

/-- The words of a key in order. -/
def words (key : List Char) : List (List Char) :=
  (Text.split (fun c => !isWordChar c) key).filter fun w => !w.isEmpty

/-- The first character in its capital form, the rest as it is. -/
def capitalizeChars : List Char → List Char
  | [] => []
  | c :: cs => Text.capitalForm c ++ cs

/-- A word that shouts has a letter of ASCII and no small letter at all. -/
def isShouting (word : List Char) : Bool :=
  word.any Char.isAlpha && !word.any Text.isSmall

/-- The first character in its small form; a word that shouts is lowered whole. -/
def decapitalizeChars (word : List Char) : List Char :=
  if isShouting word then Text.lower word
  else
    match word with
    | [] => []
    | c :: cs => Text.smallForm c ++ cs

/-- An underscore in front of a name that starts with a numeral. -/
def guardNumeral : List Char → List Char
  | [] => []
  | c :: cs => if Text.isNumeral c then '_' :: c :: cs else c :: cs

/-- Join the words of a key, the first one under `lead` and the later ones capitalized. -/
def camelCase (lead : List Char → List Char) (key : List Char) : List Char :=
  match words key with
  | [] => ['_']
  | w :: ws => guardNumeral (lead w ++ ws.flatMap capitalizeChars)

/-- The member name for a key. -/
def fieldName (key : String) : String := String.ofList (camelCase decapitalizeChars key.toList)

/-- The name for a type nested under a key. -/
def typeName (key : String) : String := String.ofList (camelCase capitalizeChars key.toList)

/-- A text with its first letter capital. -/
def capitalize (s : String) : String := String.ofList (capitalizeChars s.toList)

end ClassInference.Naming
