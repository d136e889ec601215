import ClassInference.Proofs.Layouts.Lines

/-!
# Characters of a text that is laid out

The layout writes the characters of a line one after the other, each after the indentation that is
missing, and now and then a line feed after it. So it changes nothing but blanks.
-/

namespace ClassInference

namespace Layout

variable {l : Layout} {s : State} {c : Char} {cs rest line : List Char} {endsLine : Bool}

/-! ### What one character adds -/

/-- The indentation that is still to be written before the character; a closing brace that opens a
line comes out by one level. -/
def lead (l : Layout) (s : State) (c : Char) : List Char :=
  if s.pending then l.margin (if c = '}' then s.depth - 1 else s.depth) else []

/-- The character, once written, forces a break. -/
def forcesBreak (l : Layout) (s : State) (endsLine : Bool) (c : Char) : Bool :=
  l.isWide (l.put s c).1 endsLine && (c == '{' || c == ';' || c == '(' && s.wrap.isNone)

/-- What a forced break adds. -/
def feed (breaks : Bool) : List Char := if breaks then ['\n'] else []

theorem output_put (hc : c ≠ '}') : (l.put s c).2 = l.lead s c ++ [c] := by
  rw [put, lead, if_neg hc]
  split <;> rfl

theorem wrap_put (l : Layout) (s : State) (c : Char) : (l.put s c).1.wrap = s.wrap := by
  unfold put
  split <;> rfl

theorem output_putOpenBrace (l : Layout) (s : State) (endsLine : Bool) :
    (l.putOpenBrace s endsLine).2
      = l.lead s '{' ++ ['{'] ++ feed (l.forcesBreak s endsLine '{') := by
  have hforces : l.forcesBreak s endsLine '{' = l.isWide (l.put s '{').1 endsLine :=
    Bool.and_true _
  rw [hforces, ← output_put (by decide), feed]
  change (if l.isWide (l.put s '{').1 endsLine then _ else _ : State × List Char).2 = _
  split
  · rfl
  · exact (List.append_nil _).symm

theorem output_putSemicolon (l : Layout) (s : State) (endsLine : Bool) :
    (l.putSemicolon s endsLine).2
      = l.lead s ';' ++ [';'] ++ feed (l.forcesBreak s endsLine ';') := by
  have hforces : l.forcesBreak s endsLine ';' = l.isWide (l.put s ';').1 endsLine :=
    Bool.and_true _
  rw [hforces, ← output_put (by decide), feed]
  change (if l.isWide (l.put s ';').1 endsLine then _ else _ : State × List Char).2 = _
  split
  · rfl
  · exact (List.append_nil _).symm

theorem output_putOpenParen (l : Layout) (s : State) (endsLine : Bool) :
    (l.putOpenParen s endsLine).2
      = l.lead s '(' ++ ['('] ++ feed (l.forcesBreak s endsLine '(') := by
  have hforces : l.forcesBreak s endsLine '('
      = ((l.put s '(').1.wrap.isNone && l.isWide (l.put s '(').1 endsLine) := by
    rw [wrap_put, Bool.and_comm]
    rfl
  rw [hforces, ← output_put (by decide), feed]
  change (if (l.put s '(').1.wrap.isNone && l.isWide (l.put s '(').1 endsLine then _ else _ :
    State × List Char).2 = _
  split
  · rfl
  · exact (List.append_nil _).symm

theorem output_putCloseBrace (l : Layout) (s : State) :
    (l.putCloseBrace s).2 = l.lead s '}' ++ ['}'] := by
  unfold putCloseBrace put lead
  split <;> rfl

/-- What one character adds: itself after the indentation that is missing, and a line feed if it
forces a break. Blanks right after a break are dropped. -/
theorem output_step (l : Layout) (s : State) (endsLine : Bool) (c : Char) :
    (l.step s endsLine c).2
      = if Text.isBlank c && s.broken then []
        else l.lead s c ++ [c] ++ feed (l.forcesBreak s endsLine c) := by
  have hquiet : (c == '{' || c == ';' || c == '(') = false →
      l.forcesBreak s endsLine c = false := by
    intro h
    simp_all [forcesBreak]
  by_cases hbrace : c = '{'
  · rw [hbrace]
    exact output_putOpenBrace l s endsLine
  by_cases hclose : c = '}'
  · rw [hquiet (by simp [hclose]), feed, if_neg Bool.false_ne_true, List.append_nil, hclose]
    exact output_putCloseBrace l s
  by_cases hparen : c = '('
  · rw [hparen]
    exact output_putOpenParen l s endsLine
  by_cases hend : c = ')'
  · rw [hquiet (by simp [hend]), feed, if_neg Bool.false_ne_true, List.append_nil, hend]
    exact output_put (by decide)
  by_cases hsemicolon : c = ';'
  · rw [hsemicolon]
    exact output_putSemicolon l s endsLine
  · rw [hquiet (by simp [hbrace, hparen, hsemicolon]), feed, if_neg Bool.false_ne_true,
      List.append_nil, ← output_put hclose, step, if_neg hbrace, if_neg hclose, if_neg hparen,
      if_neg hend, if_neg hsemicolon]
    split <;> rfl

/-! ### Characters that are not blank -/

/-- The characters of a text that are not blank. -/
def ink (cs : List Char) : List Char := cs.filter (!Text.isBlank ·)

theorem ink_append (a b : List Char) : ink (a ++ b) = ink a ++ ink b := List.filter_append ..

theorem ink_eq_nil_iff : ink cs = [] ↔ Text.isBlankText cs = true := by
  simp [ink, Text.isBlankText]

theorem ink_feed (breaks : Bool) : ink (feed breaks) = [] := by
  cases breaks <;> rfl

section Ink

variable (hindent : Text.isBlankText l.indent.toList = true)

include hindent

theorem ink_margin (depth : Nat) : ink (l.margin depth) = [] := by
  rw [ink_eq_nil_iff, Text.isBlankText, List.all_eq_true]
  intro c hc
  rw [margin, List.mem_flatten] at hc
  obtain ⟨indent, hmem, hc⟩ := hc
  rw [List.eq_of_mem_replicate hmem] at hc
  exact List.all_eq_true.1 hindent c hc

theorem ink_lead (s : State) (c : Char) : ink (l.lead s c) = [] := by
  unfold lead
  split
  · exact ink_margin hindent _
  · rfl

theorem ink_step (s : State) (endsLine : Bool) (c : Char) :
    ink (l.step s endsLine c).2 = ink [c] := by
  rw [output_step]
  split
  · rename_i hdropped
    rw [Bool.and_eq_true] at hdropped
    simp [ink, hdropped.1]
  · rw [ink_append, ink_append, ink_lead hindent, ink_feed, List.nil_append, List.append_nil]

theorem ink_steps (s : State) (cs : List Char) : ink (l.steps s cs).2 = ink cs := by
  induction cs generalizing s with
  | nil => rfl
  | cons c cs ih =>
      rw [steps, ink_append, ink_step hindent, ih, ← ink_append, List.singleton_append]

/-- A line is laid out with all its characters, blanks apart. -/
theorem ink_formatLine (s : State) (line : List Char) :
    ink (l.formatLine s line).2 = ink line := by
  unfold formatLine
  split
  · rename_i hblank
    rw [ink_eq_nil_iff.2 hblank]
    rfl
  · change ink ((l.steps _ line).2 ++ ['\n']) = ink line
    rw [ink_append, ink_steps hindent]
    exact List.append_nil _

theorem ink_formatLines (s : State) (lines : List (List Char)) :
    ink (l.formatLines s lines).2 = ink lines.flatten := by
  induction lines generalizing s with
  | nil => rfl
  | cons line lines ih =>
      rw [formatLines, ink_append, ink_formatLine hindent, ih, List.flatten_cons, ink_append]

end Ink

theorem ink_flatten_lines (cs : List Char) : ink (Text.lines cs).flatten = ink cs := by
  induction cs with
  | nil => rfl
  | cons c cs ih =>
      rw [Text.lines, Text.split]
      split
      · rename_i hc
        have hfeed : ink (c :: cs) = ink cs := by
          rw [eq_of_beq hc]
          rfl
        rw [hfeed]
        exact ih
      · rw [Text.lines] at ih
        cases hlines : Text.split (· == '\n') cs with
        | nil => exact absurd hlines (Text.split_ne_nil _ cs)
        | cons piece pieces =>
            rw [hlines] at ih
            change ink ([c] ++ (piece :: pieces).flatten) = ink ([c] ++ cs)
            rw [ink_append, ih, ink_append]

theorem ink_stripReturn (line : List Char) : ink (stripReturn line) = ink line := by
  unfold stripReturn
  split
  · rename_i hlast
    obtain ⟨start, rfl⟩ := List.getLast?_eq_some_iff.1 hlast
    have hreturn : ink ['\r'] = [] := by decide
    rw [List.dropLast_concat, ink_append, hreturn, List.append_nil]
  · rfl

theorem ink_flatten (lines : List (List Char)) : ink lines.flatten = (lines.map ink).flatten := by
  induction lines with
  | nil => rfl
  | cons line lines ih => rw [List.flatten_cons, ink_append, ih, List.map_cons, List.flatten_cons]

theorem ink_contentLines (text : List Char) : ink (contentLines text).flatten = ink text := by
  let blank := (Text.lines text).reverse.takeWhile Text.isBlankText
  let content := (Text.lines text).reverse.dropWhile Text.isBlankText
  have hblank : ink blank.reverse.flatten = [] := by
    rw [ink_flatten, List.flatten_eq_nil_iff]
    intro inked hmem
    obtain ⟨line, hline, rfl⟩ := List.mem_map.1 hmem
    rw [ink_eq_nil_iff]
    exact List.all_eq_true.1 List.all_takeWhile line (List.mem_reverse.1 hline)
  have hlines : Text.lines text = content.reverse ++ blank.reverse := by
    rw [← List.reverse_append, List.takeWhile_append_dropWhile, List.reverse_reverse]
  calc ink (contentLines text).flatten
      = ink content.reverse.flatten := by
        rw [contentLines, ink_flatten, List.map_map, ink_flatten]
        exact congrArg (fun f => (List.map f content.reverse).flatten) (funext ink_stripReturn)
    _ = ink (Text.lines text).flatten := by
        rw [hlines, List.flatten_append, ink_append, hblank, List.append_nil]
    _ = ink text := ink_flatten_lines text

/-- The layout changes nothing but blanks, if its indentation is blank. -/
theorem ink_format (hindent : Text.isBlankText l.indent.toList = true) (text : String) :
    ink (l.format text).toList = ink text.toList := by
  rw [format, String.toList_ofList, ink_formatLines hindent, ink_contentLines]

end Layout

end ClassInference
