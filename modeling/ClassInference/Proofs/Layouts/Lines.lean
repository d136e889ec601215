import ClassInference.Layout
import Mathlib.Data.List.Induction

/-!
# Lines of a text

Texts are joined by line feeds and split at them again. A line that is neither blank nor ends in a
carriage return is laid out as it stands, with what comes before it laid out before it.
-/

namespace ClassInference

namespace Text

variable {cs a b line : List Char}

theorem lines_append (a b : List Char) : lines (a ++ '\n' :: b) = lines a ++ lines b :=
  split_append (by rfl) a b

theorem lines_of_not_mem (h : '\n' ∉ cs) : lines cs = [cs] := by
  induction cs with
  | nil => rfl
  | cons c cs ih =>
      rw [List.mem_cons, not_or] at h
      have hc : (c == '\n') = false := by simpa using Ne.symm h.1
      have hrest : split (· == '\n') cs = [cs] := ih h.2
      rw [lines, split, hc, hrest]
      rfl

theorem not_mem_of_mem_lines (h : line ∈ lines cs) : '\n' ∉ line := by
  intro hfeed
  have hmem : '\n' ∈ (lines cs).flatten := List.mem_flatten.2 ⟨line, h, hfeed⟩
  rw [lines, flatten_split] at hmem
  simp at hmem

theorem intercalate_lines (cs : List Char) : ['\n'].intercalate (lines cs) = cs := by
  induction cs with
  | nil => rfl
  | cons c cs ih =>
      rw [lines] at ih ⊢
      rw [split]
      cases hpieces : split (· == '\n') cs with
      | nil => exact absurd hpieces (split_ne_nil _ cs)
      | cons piece rest =>
          rw [hpieces] at ih
          by_cases hc : c = '\n'
          · rw [hc, beq_self_eq_true, if_pos rfl, List.intercalate_cons_cons, ih]
            rfl
          · rw [if_neg (by simpa using hc)]
            dsimp only
            rw [← ih]
            cases rest <;> rfl

/-- The lines of a text: none of them has a line feed, and with a line feed between each two of them
they are the text. -/
structure LinesOf (cs : List Char) (pieces : List (List Char)) : Prop where
  ne_nil : pieces ≠ []
  feedless : ∀ line ∈ pieces, '\n' ∉ line
  joined : ['\n'].intercalate pieces = cs

theorem linesOf_lines (cs : List Char) : LinesOf cs (lines cs) where
  ne_nil := split_ne_nil _ cs
  feedless _ := not_mem_of_mem_lines
  joined := intercalate_lines cs

/-- A line after a text that may have lines of its own. -/
theorem exists_mem_lines_append (a : List Char) (hline : '\n' ∉ line) :
    ∃ before, before <:+ a ∧ before ++ line ∈ lines (a ++ line) := by
  induction a using List.reverseRecOn generalizing line with
  | nil =>
      refine ⟨[], List.suffix_rfl, ?_⟩
      rw [List.nil_append, lines_of_not_mem hline]
      exact List.mem_singleton_self line
  | append_singleton a c ih =>
      rw [List.append_assoc, List.singleton_append]
      by_cases hc : c = '\n'
      · refine ⟨[], List.nil_suffix, ?_⟩
        rw [hc, lines_append, lines_of_not_mem hline]
        exact List.mem_append_right _ (List.mem_singleton_self line)
      · have hlonger : '\n' ∉ c :: line := by
          rw [List.mem_cons, not_or]
          exact ⟨Ne.symm hc, hline⟩
        obtain ⟨before, ⟨rest, hrest⟩, hmem⟩ := ih hlonger
        refine ⟨before ++ [c], ⟨rest, ?_⟩, ?_⟩
        · rw [← List.append_assoc, hrest]
        · rwa [List.append_assoc, List.singleton_append]

/-- The lines of joined texts are those of the texts, and an empty one after the last line feed. -/
theorem lines_intercalate {texts : List (List Char)} (h : texts ≠ []) :
    lines (['\n'].intercalate texts ++ ['\n']) = texts.flatMap lines ++ [[]] := by
  induction texts with
  | nil => exact absurd rfl h
  | cons text texts ih =>
      cases texts with
      | nil =>
          rw [List.intercalate_singleton, lines_append, List.flatMap_singleton]
          rfl
      | cons next rest =>
          rw [List.intercalate_cons_cons, List.append_assoc, List.append_assoc,
            List.singleton_append, lines_append, ih (List.cons_ne_nil _ _),
            List.flatMap_cons (x := text), List.append_assoc]

end Text

namespace Layout

variable {line : List Char}

theorem not_mem_of_mem_contentLines {text : List Char} (h : line ∈ contentLines text) :
    '\n' ∉ line := by
  obtain ⟨whole, hwhole, rfl⟩ := List.mem_map.1 h
  have hmem : whole ∈ Text.lines text := by
    have hkept := List.mem_reverse.1 hwhole
    exact List.mem_reverse.1 ((List.dropWhile_sublist _).subset hkept)
  rw [stripReturn]
  split
  · exact fun hfeed => Text.not_mem_of_mem_lines hmem (List.dropLast_subset _ hfeed)
  · exact Text.not_mem_of_mem_lines hmem

theorem stripReturn_eq_self (h : line.getLast? ≠ some '\r') : stripReturn line = line := if_neg h

/-- The second line is the first one without the carriage return that ends it, if there is one. -/
inductive WithoutReturn : List Char → List Char → Prop
  | cut (line : List Char) : WithoutReturn (line ++ ['\r']) line
  | kept {line : List Char} (h : ¬ ['\r'] <:+ line) : WithoutReturn line line

theorem withoutReturn_stripReturn (line : List Char) : WithoutReturn line (stripReturn line) := by
  unfold stripReturn
  split
  · rename_i hlast
    obtain ⟨start, rfl⟩ := List.getLast?_eq_some_iff.1 hlast
    rw [List.dropLast_concat]
    exact .cut start
  · rename_i hlast
    apply WithoutReturn.kept
    rintro ⟨start, rfl⟩
    exact hlast List.getLast?_concat

/-- A line that is not blank is among the lines that are laid out. -/
theorem contentLines_of_lines {text : List Char} {before after : List (List Char)}
    (htext : Text.lines text = before ++ line :: after) (hblank : Text.isBlankText line = false)
    (hend : line.getLast? ≠ some '\r') :
    ∃ before' after', contentLines text = before' ++ line :: after' := by
  refine ⟨before.map stripReturn,
    (((after.reverse.dropWhile Text.isBlankText).reverse).map stripReturn), ?_⟩
  have hdrop : ((before ++ line :: after).reverse.dropWhile Text.isBlankText).reverse
      = before ++ line :: (after.reverse.dropWhile Text.isBlankText).reverse := by
    have hstop : (line :: before.reverse).dropWhile Text.isBlankText = line :: before.reverse :=
      List.dropWhile_cons_of_neg (by simp [hblank])
    rw [List.reverse_append, List.reverse_cons, List.append_assoc, List.singleton_append,
      List.dropWhile_append, hstop]
    split
    · rename_i hempty
      rw [List.isEmpty_iff.1 hempty]
      simp
    · simp
  rw [contentLines, htext, hdrop, List.map_append, List.map_cons, stripReturn_eq_self hend]

end Layout

end ClassInference
