/-!
# Splitting texts

A text cut at every separator. There is one piece more than there are separators, and the pieces may
be empty.
-/

namespace ClassInference.Text

/-- The pieces between the characters that `sep` picks. -/
def split (sep : Char → Bool) : List Char → List (List Char)
  | [] => [[]]
  | c :: cs =>
    if sep c then [] :: split sep cs
    else
      match split sep cs with
      | [] => [[c]]
      | piece :: rest => (c :: piece) :: rest

theorem split_ne_nil (sep : Char → Bool) (cs : List Char) : split sep cs ≠ [] := by
  cases cs with
  | nil => simp [split]
  | cons c cs => unfold split; split <;> (try split) <;> simp

theorem split_append {sep : Char → Bool} {c : Char} (hc : sep c = true) (a b : List Char) :
    split sep (a ++ c :: b) = split sep a ++ split sep b := by
  induction a with
  | nil => simp [split, hc]
  | cons x a ih =>
      rw [List.cons_append, split, split, ih]
      split
      · rfl
      · cases ha : split sep a with
        | nil => exact absurd ha (split_ne_nil sep a)
        | cons piece rest => rfl

/-- Splitting drops the separators and nothing else. -/
theorem flatten_split (sep : Char → Bool) (cs : List Char) :
    (split sep cs).flatten = cs.filter (!sep ·) := by
  induction cs with
  | nil => rfl
  | cons c cs ih =>
      rw [split]
      split
      · rename_i hc
        rw [List.flatten_cons, List.nil_append, ih, List.filter_cons_of_neg (by simp [hc])]
      · rename_i hc
        rw [List.filter_cons_of_pos (by simpa using hc), ← ih]
        cases hs : split sep cs with
        | nil => exact absurd hs (split_ne_nil sep cs)
        | cons piece rest => rfl

/-- The lines of a text, without the line feeds between them. -/
def lines (cs : List Char) : List (List Char) := split (· == '\n') cs

end ClassInference.Text
