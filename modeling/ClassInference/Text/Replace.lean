/-!
# Replacing in texts

Every occurrence of a pattern is replaced, from left to right, without looking again at what has
been put in.
-/

namespace ClassInference.Text

/-- Replace from here on, `skip` characters of the last occurrence still to be passed over. -/
def replaceFrom (pattern value : List Char) : Nat → List Char → List Char
  | _, [] => []
  | skip + 1, _ :: cs => replaceFrom pattern value skip cs
  | 0, c :: cs =>
    if pattern.isPrefixOf (c :: cs) then value ++ replaceFrom pattern value (pattern.length - 1) cs
    else c :: replaceFrom pattern value 0 cs

/-- Replace every occurrence of a pattern that is not empty. -/
def replaceAll (pattern value text : String) : String :=
  String.ofList (replaceFrom pattern.toList value.toList 0 text.toList)

end ClassInference.Text
