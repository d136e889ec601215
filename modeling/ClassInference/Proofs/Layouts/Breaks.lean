import ClassInference.Proofs.Layouts.Characters

/-!
# Broken lines

A line is written on one line, after its indentation, just if no opening brace, no semicolon and no
opening parenthesis stands at the maximal width or beyond while text of the line follows; a
parenthesis breaks no line while another one is open that did. A line that is not broken is a line
of the output.
-/

namespace ClassInference

namespace Layout

variable {l : Layout} {s : State} {c : Char} {cs line : List Char} {endsLine : Bool}

/-! ### In the middle of a line -/

/-- Where no break is forced, a character is written as one that ends its line. -/
theorem step_of_keeps (h : l.forcesBreak s endsLine c = false) :
    l.step s endsLine c = l.step s true c := by
  have hnarrow : ∀ t : State, l.isWide t true = false := fun _ => Bool.and_false _
  unfold step
  by_cases hbrace : c = '{'
  · subst hbrace
    have hwide : l.isWide (l.put s '{').1 endsLine = false := by simpa [forcesBreak] using h
    rw [if_pos rfl, if_pos rfl, putOpenBrace, putOpenBrace]
    change (if l.isWide (l.put s '{').1 endsLine then _ else _)
      = if l.isWide (l.put s '{').1 true then _ else _
    rw [hwide, hnarrow]
  rw [if_neg hbrace, if_neg hbrace]
  by_cases hclose : c = '}'
  · rw [if_pos hclose, if_pos hclose]
  rw [if_neg hclose, if_neg hclose]
  by_cases hparen : c = '('
  · subst hparen
    have hwide : ((l.put s '(').1.wrap.isNone && l.isWide (l.put s '(').1 endsLine) = false := by
      rw [wrap_put, Bool.and_comm]
      exact h
    rw [if_pos rfl, if_pos rfl, putOpenParen, putOpenParen]
    change (if (l.put s '(').1.wrap.isNone && l.isWide (l.put s '(').1 endsLine then _ else _)
      = if (l.put s '(').1.wrap.isNone && l.isWide (l.put s '(').1 true then _ else _
    rw [hwide, hnarrow, Bool.and_false]
  rw [if_neg hparen, if_neg hparen]
  by_cases hend : c = ')'
  · rw [if_pos hend, if_pos hend]
  rw [if_neg hend, if_neg hend]
  by_cases hsemicolon : c = ';'
  · subst hsemicolon
    have hwide : l.isWide (l.put s ';').1 endsLine = false := by simpa [forcesBreak] using h
    rw [if_pos rfl, if_pos rfl, putSemicolon, putSemicolon, hwide, hnarrow]
  · rw [if_neg hsemicolon, if_neg hsemicolon]

/-- The output stands in the middle of a line, so many characters from its start. -/
structure State.Inside (s : State) (column : Nat) : Prop where
  pending : s.pending = false
  broken : s.broken = false
  column : s.column = column

theorem inside_put (l : Layout) (s : State) (c : Char) :
    (l.put s c).1.Inside
      (if s.pending then s.depth * l.indent.toList.length + 1 else s.column + 1) := by
  unfold put
  split <;> rename_i hpending
  · exact ⟨rfl, rfl, rfl⟩
  · exact ⟨by simpa using hpending, rfl, rfl⟩

theorem inside_putCloseParen (l : Layout) (s : State) :
    (l.putCloseParen s).1.Inside
      (if s.pending then s.depth * l.indent.toList.length + 1 else s.column + 1) := by
  obtain ⟨hpending, hbroken, hcolumn⟩ := l.inside_put s ')'
  unfold putCloseParen
  dsimp only
  split
  · split
    · exact ⟨hpending, hbroken, hcolumn⟩
    · exact ⟨hpending, hbroken, hcolumn⟩
  · exact ⟨hpending, hbroken, hcolumn⟩

/-- A character that is not dropped and forces no break leaves the output in the middle of the
line. -/
theorem inside_step (h : (Text.isBlank c && s.broken) = false) :
    (l.step s true c).1.Inside
      (if s.pending then (if c = '}' then s.depth - 1 else s.depth) * l.indent.toList.length + 1
        else s.column + 1) := by
  have hnarrow : ∀ t : State, l.isWide t true = false := fun _ => Bool.and_false _
  unfold step
  by_cases hbrace : c = '{'
  · subst hbrace
    obtain ⟨hpending, hbroken, hcolumn⟩ := l.inside_put s '{'
    rw [if_pos rfl, putOpenBrace]
    simp only [hnarrow]
    exact ⟨hpending, hbroken, hcolumn⟩
  rw [if_neg hbrace]
  by_cases hclose : c = '}'
  · rw [if_pos hclose, if_pos hclose]
    exact l.inside_put { s with depth := s.depth - 1 } '}'
  rw [if_neg hclose, if_neg hclose]
  by_cases hparen : c = '('
  · subst hparen
    obtain ⟨hpending, hbroken, hcolumn⟩ := l.inside_put s '('
    rw [if_pos rfl, putOpenParen]
    simp only [hnarrow, Bool.and_false]
    exact ⟨hpending, hbroken, hcolumn⟩
  rw [if_neg hparen]
  by_cases hend : c = ')'
  · rw [if_pos hend]
    exact l.inside_putCloseParen s
  rw [if_neg hend]
  by_cases hsemicolon : c = ';'
  · rw [if_pos hsemicolon, putSemicolon, hnarrow]
    exact l.inside_put s ';'
  · rw [if_neg hsemicolon, h]
    exact l.inside_put s c

/-! ### Lines that are not broken -/

theorem State.Inside.step {column : Nat} (h : s.Inside column) (l : Layout) (c : Char) :
    (l.step s true c).1.Inside (column + 1) := by
  have hkept : (Text.isBlank c && s.broken) = false := by rw [h.broken, Bool.and_false]
  have hstep := inside_step (l := l) hkept
  rwa [if_neg (by simp [h.pending]), h.column] at hstep

/-- The state in which a line is begun. -/
def State.atLineStart (s : State) : State :=
  { s with pending := true, broken := false, column := 0 }

/-- The state after characters that force no break. -/
def advance (l : Layout) (s : State) (cs : List Char) : State :=
  cs.foldl (fun s c => (l.step s true c).1) s

theorem advance_cons (l : Layout) (s : State) (c : Char) (cs : List Char) :
    l.advance s (c :: cs) = l.advance (l.step s true c).1 cs := rfl

theorem State.Inside.advance {column : Nat} (h : s.Inside column) (l : Layout) (cs : List Char) :
    (l.advance s cs).Inside (column + cs.length) := by
  induction cs generalizing s column with
  | nil => exact h
  | cons c cs ih =>
      rw [advance_cons, List.length_cons, Nat.add_comm cs.length 1, ← Nat.add_assoc]
      exact ih (h.step l c)

/-- What holds where a list is split holds at its first item and later. -/
theorem forall_split_cons_iff {α : Type} {x : α} {xs : List α} {P : List α → α → List α → Prop} :
    (∀ done y rest, x :: xs = done ++ y :: rest → P done y rest) ↔
      P [] x xs ∧ ∀ done y rest, xs = done ++ y :: rest → P (x :: done) y rest := by
  constructor
  · intro h
    refine ⟨h [] x xs rfl, fun done y rest hsplit => ?_⟩
    exact h (x :: done) y rest (congrArg _ hsplit)
  · rintro ⟨hfirst, hlater⟩ done y rest hsplit
    cases done with
    | nil =>
        obtain ⟨rfl, rfl⟩ := List.cons.inj hsplit
        exact hfirst
    | cons d done =>
        obtain ⟨rfl, hrest⟩ := List.cons.inj hsplit
        exact hlater done y rest hrest

/-- The next character and the rest of the line are written as they stand just if neither the
character nor the rest is broken. -/
theorem steps_cons_eq_iff (hbroken : s.broken = false) (hfeed : '\n' ∉ cs) :
    (l.steps s (c :: cs)).2 = l.lead s c ++ c :: cs ↔
      l.forcesBreak s (Text.isBlankText cs) c = false ∧
        (l.steps (l.step s true c).1 cs).2 = cs := by
  have hout := l.output_step s (Text.isBlankText cs) c
  rw [hbroken, Bool.and_false, if_neg Bool.false_ne_true] at hout
  rw [steps, hout, List.append_assoc, List.append_assoc, List.append_right_inj,
    List.singleton_append, List.cons.injEq, and_iff_right rfl]
  cases hforces : l.forcesBreak s (Text.isBlankText cs) c with
  | true =>
      apply iff_of_false
      · intro heq
        exact hfeed (heq ▸ List.mem_cons_self)
      · exact fun h => Bool.noConfusion h.1
  | false =>
      rw [step_of_keeps hforces, and_iff_right rfl]
      rfl

/-- In the middle of a line, the rest of the line is written as it stands just if no character of it
forces a break. -/
theorem steps_eq_self_iff {column : Nat} (h : s.Inside column) (hfeed : '\n' ∉ cs) :
    (l.steps s cs).2 = cs ↔ ∀ done c rest, cs = done ++ c :: rest →
      l.forcesBreak (l.advance s done) (Text.isBlankText rest) c = false := by
  induction cs generalizing s column with
  | nil =>
      apply iff_of_true rfl
      intro done c rest hsplit
      simp at hsplit
  | cons c cs ih =>
      rw [List.mem_cons, not_or] at hfeed
      have hlead : l.lead s c = [] := if_neg (by simp [h.pending])
      have hcons := steps_cons_eq_iff (l := l) (c := c) h.broken hfeed.2
      rw [hlead, List.nil_append] at hcons
      rw [hcons, ih (h.step l c) hfeed.2, forall_split_cons_iff]
      rfl

/-- No character of the line forces a break: an opening brace, a semicolon or an opening parenthesis
comes before the maximal width, or ends the line, or it is a parenthesis while another one is open
that has broken a line. -/
def Fits (l : Layout) (s : State) (line : List Char) : Prop :=
  ∀ done c rest, line = done ++ c :: rest → Text.isBlankText rest = false →
    c = '{' ∨ c = ';' ∨ c = '(' ∧ (l.advance s.atLineStart done).wrap = none →
      (l.margin s.depth).length + done.length + 1 < l.maxWidth

theorem forcesBreak_eq_false_iff :
    l.forcesBreak s endsLine c = false ↔ (endsLine = false →
      c = '{' ∨ c = ';' ∨ c = '(' ∧ s.wrap = none → (l.put s c).1.column < l.maxWidth) := by
  cases endsLine with
  | true => simp [forcesBreak, isWide]
  | false =>
      rw [forcesBreak, Bool.and_comm, Bool.and_eq_false_imp]
      simp [isWide, or_assoc]

theorem length_margin (l : Layout) (depth : Nat) :
    (l.margin depth).length = depth * l.indent.toList.length := by
  simp [margin]

theorem column_put_advance (hc : c ≠ '}') {done : List Char}
    (hdone : done = [] ∨ ∃ tail, done = c :: tail) (c' : Char) :
    (l.put (l.advance s.atLineStart done) c').1.column
      = (l.margin s.depth).length + done.length + 1 := by
  rw [length_margin]
  rcases hdone with rfl | ⟨tail, rfl⟩
  · exact (l.inside_put s.atLineStart c').column
  · have hfirst := inside_step (l := l) (s := s.atLineStart) (c := c) (Bool.and_false _)
    rw [if_pos (by rfl), if_neg hc] at hfirst
    have hput := (l.inside_put (l.advance s.atLineStart (c :: tail)) c').column
    rw [advance_cons] at hput ⊢
    obtain ⟨hpending, -, hcolumn⟩ := hfirst.advance l tail
    rw [if_neg (by simp [hpending]), hcolumn] at hput
    have hdepth : s.atLineStart.depth = s.depth := rfl
    rw [hput, hdepth, List.length_cons]
    omega

/-- A line is written on one line just if no character of it forces a break. -/
theorem formatLine_eq_iff (hblank : Text.isBlankText (c :: cs) = false) (hc : c ≠ '}')
    (hfeed : '\n' ∉ c :: cs) :
    (l.formatLine s (c :: cs)).2 = l.margin s.depth ++ (c :: cs) ++ ['\n'] ↔
      l.Fits s (c :: cs) := by
  have hfits : l.Fits s (c :: cs) ↔ ∀ done c' rest, c :: cs = done ++ c' :: rest →
      l.forcesBreak (l.advance s.atLineStart done) (Text.isBlankText rest) c' = false := by
    refine forall_congr' fun done => forall_congr' fun c' => forall_congr' fun rest => ?_
    refine imp_congr_right fun hsplit => ?_
    have hdone : done = [] ∨ ∃ tail, done = c :: tail := by
      cases done with
      | nil => exact .inl rfl
      | cons d tail =>
          obtain ⟨rfl, -⟩ := List.cons.inj hsplit
          exact .inr ⟨tail, rfl⟩
    rw [forcesBreak_eq_false_iff, column_put_advance hc hdone]
  have hlead : l.lead s.atLineStart c = l.margin s.depth := by
    rw [lead, if_neg hc]
    rfl
  rw [List.mem_cons, not_or] at hfeed
  have hcons := steps_cons_eq_iff (l := l) (s := s.atLineStart) (c := c) rfl hfeed.2
  rw [hlead] at hcons
  rw [hfits, formatLine, hblank, if_neg Bool.false_ne_true, forall_split_cons_iff]
  change (l.steps s.atLineStart (c :: cs)).2 ++ ['\n'] = _ ↔ _
  rw [List.append_left_inj, hcons, steps_eq_self_iff (inside_step (Bool.and_false _)) hfeed.2]
  rfl

/-! ### Lines of the output -/

theorem formatLines_append (l : Layout) (s : State) (before after : List (List Char)) :
    (l.formatLines s (before ++ after)).2
      = (l.formatLines s before).2 ++ (l.formatLines (l.formatLines s before).1 after).2 := by
  induction before generalizing s with
  | nil => rfl
  | cons line before ih =>
      rw [List.cons_append, formatLines, ih, ← List.append_assoc]
      rfl

/-- What has been laid out ends in a line feed. -/
theorem formatLines_ends (l : Layout) (s : State) (lines : List (List Char)) :
    (l.formatLines s lines).2 = [] ∨ ∃ out, (l.formatLines s lines).2 = out ++ ['\n'] := by
  induction lines using List.reverseRecOn with
  | nil => exact .inl rfl
  | append_singleton lines line _ =>
      right
      have hline : ∀ t : State, ∃ out, (l.formatLines t [line]).2 = out ++ ['\n'] := by
        intro t
        change ∃ out, (l.formatLine t line).2 ++ [] = out ++ ['\n']
        rw [List.append_nil, formatLine]
        split
        · exact ⟨[], rfl⟩
        · exact ⟨_, rfl⟩
      obtain ⟨out, hout⟩ := hline (l.formatLines s lines).1
      rw [formatLines_append, hout, ← List.append_assoc]
      exact ⟨_, rfl⟩

/-- A line that is written on one line is a line of the output, after its indentation. -/
theorem exists_mem_lines_format (hindent : Text.isBlankText l.indent.toList = true)
    {text : String} {before after : List (List Char)}
    (htext : contentLines text.toList = before ++ (c :: cs) :: after)
    (hc : Text.isBlank c = false) (hfeed : '\n' ∉ c :: cs)
    (hkept : (l.formatLine (l.formatLines .start before).1 (c :: cs)).2
      = l.margin (l.formatLines .start before).1.depth ++ (c :: cs) ++ ['\n']) :
    ∃ written ∈ Text.lines (l.format text).toList, written.dropWhile Text.isBlank = c :: cs := by
  obtain ⟨blanks, hsuffix, hmem⟩ :=
    Text.exists_mem_lines_append (l.margin (l.formatLines .start before).1.depth) hfeed
  have hblanks : ∀ b ∈ blanks, Text.isBlank b = true := by
    have hmargin := ink_eq_nil_iff.1 (ink_margin hindent (l.formatLines .start before).1.depth)
    exact fun b hb => List.all_eq_true.1 hmargin b (hsuffix.mem hb)
  refine ⟨blanks ++ c :: cs, ?_, ?_⟩
  · have houtput : (l.format text).toList
        = (l.formatLines .start before).2
          ++ (l.margin (l.formatLines .start before).1.depth ++ c :: cs
            ++ '\n' :: (l.formatLines (l.formatLine (l.formatLines .start before).1 (c :: cs)).1
              after).2) := by
      rw [format, String.toList_ofList, htext, formatLines_append, formatLines, hkept,
        List.append_assoc _ ['\n']]
      rfl
    rw [houtput]
    rcases l.formatLines_ends .start before with hnone | ⟨out, hout⟩
    · rw [hnone, List.nil_append, Text.lines_append]
      exact List.mem_append_left _ hmem
    · rw [hout, List.append_assoc, List.singleton_append, Text.lines_append, Text.lines_append]
      exact List.mem_append_right _ (List.mem_append_left _ hmem)
  · rw [List.dropWhile_append_of_pos hblanks, List.dropWhile_cons_of_neg (by simp [hc])]

/-- What the layout makes of a line that it comes to in the state `s`. -/
structure Writes (l : Layout) (text : String) (s : State) (line : List Char) : Prop where
  /-- The line goes into the output as one piece. -/
  piece : ∃ out rest, (l.format text).toList = out ++ (l.formatLine s line).2 ++ rest
  /-- The piece differs from the line in blanks only. -/
  ink_eq : ink (l.formatLine s line).2 = ink line
  /-- It is the line itself after its indentation, just if no character forces a break. -/
  unbroken_iff : (l.formatLine s line).2 = l.margin s.depth ++ line ++ ['\n'] ↔ l.Fits s line
  /-- Then the line is a line of the output, after its indentation. -/
  shown : l.Fits s line →
    ∃ written ∈ Text.lines (l.format text).toList, written.dropWhile Text.isBlank = line

theorem writes_of_contentLines (hindent : Text.isBlankText l.indent.toList = true) {text : String}
    {before after : List (List Char)}
    (htext : contentLines text.toList = before ++ (c :: cs) :: after)
    (hblank : Text.isBlank c = false) (hc : c ≠ '}') (hfeed : '\n' ∉ c :: cs) :
    l.Writes text (l.formatLines .start before).1 (c :: cs) := by
  have hline : Text.isBlankText (c :: cs) = false := by simp [Text.isBlankText, hblank]
  constructor
  · refine ⟨(l.formatLines .start before).2, ?_⟩
    rw [format, String.toList_ofList, htext, formatLines_append]
    exact ⟨_, (List.append_assoc _ _ _).symm⟩
  · exact ink_formatLine hindent _ _
  · exact formatLine_eq_iff hline hc hfeed
  · intro hfits
    exact exists_mem_lines_format hindent htext hblank hfeed
      ((formatLine_eq_iff hline hc hfeed).2 hfits)

end Layout

end ClassInference
