import ClassInference.Proofs.Layouts.Widths

/-!
# Lines that are left alone

Braces, parentheses and semicolons are structural wherever they stand, in a comment too. Lines at
the start of a text are written as they stand just if none of them is begun inside a brace of an
earlier one and none has a structural character beyond the width with text after it.
-/

namespace ClassInference

namespace Layout

/-- The levels that a line is indented by where these brackets are open and no parenthesis is
wrapped: a closing brace that begins the line counts already. -/
def startLevel (opened : List Bracket) (line : List Char) : Nat :=
  opened.count .brace - if line.head? = some '}' then 1 else 0

/-- Without indentation the line is not broken: no opening brace, semicolon or opening parenthesis
with text after it stands at the maximal width or beyond. -/
def Narrow (l : Layout) (cs : List Char) : Prop :=
  ∀ i, (h : i < cs.length) → cs[i] = '{' ∨ cs[i] = ';' ∨ cs[i] = '(' →
    Text.isBlankText (cs.drop (i + 1)) = false → i + 1 < l.maxWidth

instance (l : Layout) (cs : List Char) : Decidable (l.Narrow cs) :=
  inferInstanceAs (Decidable (∀ i, (_ : i < cs.length) → _ → _ → _))

/-- Each of the lines, the first one inside these brackets, is neither indented nor broken. -/
def LeavesAlone (l : Layout) (opened : List Bracket) : List (List Char) → Prop
  | [] => True
  | line :: lines => (l.indent = "" ∨ startLevel opened line = 0) ∧ l.Narrow line ∧
      l.LeavesAlone (Bracket.readAll opened line) lines

instance decidableLeavesAlone (l : Layout) :
    ∀ opened lines, Decidable (l.LeavesAlone opened lines)
  | _, [] => .isTrue trivial
  | opened, line :: lines =>
    have := decidableLeavesAlone l (Bracket.readAll opened line) lines
    inferInstanceAs (Decidable (_ ∧ _ ∧ _))

variable {l : Layout} {s : State} {t begun : Strip} {c : Char} {cs line later : List Char}
  {lines more : List (List Char)} {ts : List Strip} {opened : List Bracket} {n : Nesting}

theorem narrow_iff : l.Narrow cs ↔ ∀ done c rest, cs = done ++ c :: rest →
    c = '{' ∨ c = ';' ∨ c = '(' → Text.isBlankText rest = false → done.length + 1 < l.maxWidth := by
  constructor
  · rintro h done c rest rfl hc hrest
    have hi : done.length < (done ++ c :: rest).length := by simp
    apply h done.length hi
    · simpa using hc
    · rw [← List.drop_drop, List.drop_left]
      exact hrest
  · intro h i hi hc hrest
    have hsplit : cs = cs.take i ++ cs[i] :: cs.drop (i + 1) := by
      rw [← List.drop_eq_getElem_cons hi, List.take_append_drop]
    have hlength : (cs.take i).length = i := List.length_take_of_le (Nat.le_of_lt hi)
    rw [← hlength]
    exact h _ _ _ hsplit hc hrest

theorem margin_eq_nil_iff (level : Nat) : l.margin level = [] ↔ l.indent = "" ∨ level = 0 := by
  rw [← List.length_eq_zero_iff, length_margin, Nat.mul_eq_zero, List.length_eq_zero_iff,
    String.toList_eq_nil_iff, or_comm]

/-! ### The level of a line -/

/-- The strip that has been begun keeps its level. -/
theorem exists_lineStrips_level (h : Begun l s begun) (hpending : s.pending = false)
    (cs : List Char) : ∃ t ts, l.lineStrips s begun cs = t :: ts ∧ t.level = begun.level := by
  induction cs generalizing s begun with
  | nil => exact ⟨begun, [], rfl, rfl⟩
  | cons c cs ih =>
      have hkept : (Text.isBlank c && s.broken) = false := by
        rw [(h.inside hpending).broken, Bool.and_false]
      have hlevel : (begun.push s c).level = begun.level := by
        rw [Strip.push, if_neg (by simp [hpending])]
      rw [lineStrips, if_neg (by simp [hkept])]
      split
      · exact ⟨_, _, rfl, hlevel⟩
      · rename_i hforces
        rw [Bool.not_eq_true] at hforces
        have hbegun := h.push hkept hforces
        have hinside : (l.step s (Text.isBlankText cs) c).1.pending = false := by
          rw [step_of_keeps hforces]
          exact (inside_step hkept).pending
        rw [← hlevel]
        exact ih hbegun hinside

/-- The level of a line's first strip is settled by its first character. -/
theorem exists_lineStrips_startLevel (hdepth : s.depth = opened.count .brace) (hline : line ≠ []) :
    ∃ t ts, l.lineStrips s.atLineStart .empty line = t :: ts ∧
      t.level = startLevel opened line := by
  cases line with
  | nil => exact absurd rfl hline
  | cons c cs =>
      have hlevel : (Strip.empty.push s.atLineStart c).level = startLevel opened (c :: cs) := by
        have hpush : (Strip.empty.push s.atLineStart c).level
            = if c = '}' then s.depth - 1 else s.depth := rfl
        rw [hpush, startLevel, hdepth, List.head?_cons]
        by_cases hc : c = '}'
        · rw [if_pos hc, if_pos (congrArg some hc)]
        · rw [if_neg hc, if_neg (fun heq => hc (Option.some.inj heq))]
          rfl
      have hkept : (Text.isBlank c && s.atLineStart.broken) = false := Bool.and_false _
      rw [lineStrips, if_neg (by simp [hkept])]
      split
      · exact ⟨_, _, rfl, hlevel⟩
      · rename_i hforces
        rw [Bool.not_eq_true] at hforces
        have hbegun := (begun_empty l (s := s.atLineStart) rfl).push hkept hforces
        rw [← hlevel]
        apply exists_lineStrips_level hbegun
        rw [step_of_keeps hforces]
        exact (inside_step hkept).pending

/-! ### No parenthesis is wrapped -/

/-- No parenthesis is wrapped, and the depth is the number of open braces, whatever closing brackets
there are too many of. -/
structure Unwrapped (n : Nesting) (opened : List Bracket) : Prop where
  levels : Levels n (parens opened)
  depth : n.depth = opened.count .brace
  none : .paren true ∉ opened

theorem count_eraseP_isParen (opened : List Bracket) :
    (opened.eraseP Bracket.isParen).count .brace = opened.count .brace := by
  induction opened with
  | nil => rfl
  | cons bracket opened ih =>
      cases bracket with
      | brace =>
          rw [List.eraseP_cons_of_neg (by decide), List.count_cons_self, List.count_cons_self, ih]
      | paren wrapped =>
          rw [List.eraseP_cons_of_pos rfl, List.count_cons_of_ne (by simp)]

theorem Unwrapped.read (h : Unwrapped n opened) (c : Char) :
    Unwrapped (n.read false c) (Bracket.read false opened c) := by
  obtain ⟨hlevels, hdepth, hnone⟩ := h
  constructor
  · exact keptByReading_levels n opened c [] false hlevels (fun hwraps => Bool.noConfusion hwraps)
  · unfold Nesting.read Bracket.read
    split
    · rw [List.count_cons_self, ← hdepth]
    · split
      · rw [List.count_erase_self, ← hdepth]
      · split
        · rw [List.count_cons_of_ne (by decide), ← hdepth]
          rfl
        · split
          · have hwrap := hlevels.wrap_eq_none_iff.2 hnone
            rw [Nesting.close_of_ne (by simp [hwrap]), count_eraseP_isParen, ← hdepth]
          · exact hdepth
  · rw [← mem_parens_iff, parens_read]
    rw [← mem_parens_iff] at hnone
    split
    · simpa using hnone
    · split
      · exact fun hmem => hnone (List.mem_of_mem_tail hmem)
      · exact hnone

theorem Unwrapped.readAll (h : Unwrapped n opened) (cs : List Char) :
    Unwrapped (cs.foldl (Nesting.read false) n) (Bracket.readAll opened cs) := by
  induction cs generalizing n opened with
  | nil => exact h
  | cons c cs ih => exact ih (h.read c)

/-- A line that is not cut wraps no parenthesis. -/
theorem nesting_steps (hforced : ∀ t ∈ l.lineStrips s begun cs, t.forced = false) :
    (l.steps s cs).1.nesting = cs.foldl (Nesting.read false) s.nesting := by
  induction cs generalizing s begun with
  | nil => rfl
  | cons c cs ih =>
      rw [lineStrips] at hforced
      rw [steps, List.foldl_cons]
      split at hforced
      · rename_i hdropped
        have hkept := nesting_step l s (Text.isBlankText cs) c
        have hforces : l.forcesBreak s (Text.isBlankText cs) c = false := by
          rw [Bool.and_eq_true] at hdropped
          rw [← Bool.not_eq_true, forcesBreak_eq_true_iff]
          rintro ⟨-, hc, -⟩
          rcases hc with rfl | rfl | ⟨rfl, -⟩ <;> exact absurd hdropped.1 (by decide)
        rw [hforces] at hkept
        rw [← hkept]
        exact ih hforced
      · split at hforced
        · rename_i hforces
          exact absurd (hforced _ List.mem_cons_self) (by simp [Strip.cut])
        · rename_i hforces
          rw [Bool.not_eq_true] at hforces
          have hkept := nesting_step l s (Text.isBlankText cs) c
          rw [hforces] at hkept
          rw [← hkept]
          exact ih hforced

/-! ### One line -/

theorem isBlankText_of_mem (hc : Text.isBlank c = false) (hmem : c ∈ cs) :
    Text.isBlankText cs = false :=
  List.all_eq_false.2 ⟨c, hmem, by simp [hc]⟩

theorem isBlank_of_breaks (hc : c = '{' ∨ c = ';' ∨ c = '(') : Text.isBlank c = false := by
  rcases hc with rfl | rfl | rfl <;> decide

/-- The line that a strip with text begins has text. -/
theorem Cuts.ink_of_text (h : Cuts (line :: lines) (t :: ts)) (htext : t.text ≠ []) :
    Text.isBlankText line = false := by
  cases h with
  | blank _ _ => exact absurd rfl htext
  | whole _ hink _ => exact hink
  | cut _ hc _ _ _ => exact isBlankText_of_mem (isBlank_of_breaks hc) (by simp)

/-- The first strip of a line is the whole line, or it is cut and text follows. -/
inductive First (line : List Char) (t : Strip) : List Strip → Prop
  | whole (hforced : t.forced = false) (htext : t.text = line) : First line t []
  | cut {start tail : List Char} {c : Char} {ts : List Strip} (hforced : t.forced = true)
      (htext : t.text = start ++ [c]) (hline : line = start ++ [c] ++ tail)
      (hc : Text.isBlank c = false) (htail : Text.isBlankText tail = false) : First line t ts

theorem Cuts.first (h : Cuts [line] (t :: ts)) (hink : Text.isBlankText line = false) :
    First line t ts := by
  generalize hlines : [line] = lines at h
  cases h with
  | blank hblank _ =>
      obtain ⟨rfl, -⟩ := List.cons.inj hlines
      exact absurd (hblank.symm.trans hink) Bool.noConfusion
  | whole level _ hrest =>
      obtain ⟨rfl, rfl⟩ := List.cons.inj hlines
      cases hrest
      exact .whole rfl rfl
  | @cut start gap rest c _ _ _ level hc hgap hstart hrest =>
      obtain ⟨rfl, -⟩ := List.cons.inj hlines
      obtain ⟨d, tail, htext, -⟩ := hstart
      have hrest := hrest.ink_of_text (by simp [htext])
      refine .cut rfl rfl (List.append_assoc _ _ _) (isBlank_of_breaks hc) ?_
      rw [Text.isBlankText, List.all_append, Bool.and_eq_false_iff]
      exact .inr hrest

theorem First.text_prefix (h : First line t ts) : t.text <+: line := by
  cases h with
  | whole _ htext => exact htext ▸ List.prefix_rfl
  | cut _ htext hline _ _ =>
      rw [htext, hline]
      exact List.prefix_append _ _

theorem First.ink (h : First line t ts) (hink : Text.isBlankText line = false) :
    Text.isBlankText t.text = false := by
  cases h with
  | whole _ htext => rwa [htext]
  | cut _ htext _ hc _ => exact isBlankText_of_mem hc (by simp [htext])

theorem First.eq_of_not_forced (h : First line t ts) (hforced : t.forced = false) :
    t :: ts = [⟨t.level, line, false⟩] := by
  cases h with
  | whole _ htext => rw [← htext, ← hforced]
  | cut hcut _ _ _ _ => exact absurd (hforced.symm.trans hcut) Bool.noConfusion

theorem strips_singleton (hink : Text.isBlankText line = false) :
    l.strips s [line] = l.lineStrips s.atLineStart .empty line := by
  rw [strips, hink, if_neg Bool.false_ne_true]
  exact List.append_nil _

theorem first_lineStrips (hink : Text.isBlankText line = false)
    (hstrips : l.lineStrips s.atLineStart .empty line = t :: ts) : First line t ts := by
  have hcuts := cuts_strips l s [line]
  rw [strips_singleton hink, hstrips] at hcuts
  exact hcuts.first hink

/-- A line that is not indented is cut just if it is not narrow. -/
theorem forced_eq_false_iff (h : Unwrapped s.nesting opened)
    (hink : Text.isBlankText line = false)
    (hstrips : l.lineStrips s.atLineStart .empty line = t :: ts)
    (hmargin : l.margin t.level = []) : t.forced = false ↔ l.Narrow line := by
  have hmet : MetOn l _ opened t [] :=
    keptByReading_levels.metOn_strips h.levels [] t ts ((strips_singleton hink).trans hstrips)
  rw [narrow_iff]
  cases first_lineStrips hink hstrips with
  | whole hforced htext =>
      refine iff_of_true hforced fun done c rest hsplit hc hrest => ?_
      obtain ⟨s', after, hmeets⟩ := hmet done c rest (htext.trans hsplit)
      obtain ⟨-, hlevels⟩ := hmeets.inv
      have hafter : Text.isBlankText after = false := by
        rw [← Bool.not_eq_true]
        intro hblank
        have hrest' := hmeets.blank hblank
        rw [List.append_nil, hrest] at hrest'
        exact Bool.noConfusion hrest'
      have hbreak : MayBreak (Bracket.readAll opened done) c :=
        hc.imp_right (Or.imp_right fun hparen => ⟨hparen, (h.readAll done).none⟩)
      apply Nat.lt_of_not_le
      intro hwide
      have hcut := (hmeets.forced_iff hlevels).2 ⟨hafter, hbreak, by rwa [hmargin]⟩
      exact Bool.noConfusion (hforced.symm.trans hcut.1)
  | @cut start tail c _ hforced htext hline _ htail =>
      refine iff_of_false (by simp [hforced]) fun hnarrow => ?_
      obtain ⟨s', after, hmeets⟩ := hmet start c [] htext
      obtain ⟨-, hlevels⟩ := hmeets.inv
      obtain ⟨-, hbreak, hwide⟩ := (hmeets.forced_iff hlevels).1 ⟨hforced, rfl⟩
      rw [hmargin, List.nil_append] at hwide
      rw [List.append_assoc, List.singleton_append] at hline
      have hc := hbreak.imp_right (Or.imp_right And.left)
      exact absurd hwide (Nat.not_le.2 (hnarrow start c tail hline hc htail))

/-- A line is one strip without indentation just if it is neither indented nor broken. -/
theorem exists_lineStrips_eq_iff (h : Unwrapped s.nesting opened)
    (hink : Text.isBlankText line = false) :
    (∃ level, l.lineStrips s.atLineStart .empty line = [⟨level, line, false⟩] ∧
        l.margin level = []) ↔
      (l.indent = "" ∨ startLevel opened line = 0) ∧ l.Narrow line := by
  have hline : line ≠ [] := by
    rintro rfl
    exact absurd hink (by decide)
  obtain ⟨t, ts, hstrips, hlevel⟩ := l.exists_lineStrips_startLevel (s := s) h.depth hline
  rw [← margin_eq_nil_iff, ← hlevel]
  constructor
  · rintro ⟨level, hone, hmargin⟩
    obtain ⟨rfl, rfl⟩ := List.cons.inj (hstrips.symm.trans hone)
    exact ⟨hmargin, (forced_eq_false_iff h hink hstrips hmargin).1 rfl⟩
  · rintro ⟨hmargin, hnarrow⟩
    have hforced := (forced_eq_false_iff h hink hstrips hmargin).2 hnarrow
    have hwhole := (first_lineStrips hink hstrips).eq_of_not_forced hforced
    exact ⟨t.level, hstrips.trans hwhole, hmargin⟩

/-- Texts that begin alike, with more than blanks, begin with the same blanks. -/
theorem takeWhile_eq_of_prefix {a b : List Char} (hpre : a <+: b)
    (hink : Text.isBlankText a = false) :
    b.takeWhile Text.isBlank = a.takeWhile Text.isBlank := by
  obtain ⟨rest, rfl⟩ := hpre
  rw [List.takeWhile_append, if_neg]
  intro hlength
  have hall : a.takeWhile Text.isBlank = a := (List.takeWhile_prefix _).eq_of_length hlength
  rw [← hall, Text.isBlankText, List.all_takeWhile] at hink
  exact Bool.noConfusion hink

/-- Blank indentation shows: a line has its own blanks before its text, and no more. -/
theorem First.margin_eq_nil (h : First line t ts) (hindent : Text.isBlankText l.indent.toList = true)
    (hink : Text.isBlankText line = false) (hpre : line <+: l.margin t.level ++ (t.text ++ later)) :
    l.margin t.level = [] := by
  have hblanks : ∀ b ∈ l.margin t.level, Text.isBlank b = true :=
    List.all_eq_true.1 (ink_eq_nil_iff.1 (ink_margin hindent t.level))
  have htext := h.ink hink
  have hline := takeWhile_eq_of_prefix hpre hink
  rw [List.takeWhile_append_of_pos hblanks,
    takeWhile_eq_of_prefix (List.prefix_append t.text later) htext,
    takeWhile_eq_of_prefix h.text_prefix htext] at hline
  exact List.append_left_eq_self.1 hline

/-- A cut shows: the text after it would begin with the line feed. -/
theorem First.not_forced (h : First line t ts) (hfeed : '\n' ∉ line)
    (hpre : line ++ ['\n'] <+: t.text ++ '\n' :: later) : t.forced = false := by
  cases h with
  | whole hforced _ => exact hforced
  | @cut start tail c _ _ htext hline _ htail =>
      rw [htext, hline, List.append_assoc _ tail, List.prefix_append_right_inj] at hpre
      cases tail with
      | nil => exact absurd htail (by decide)
      | cons d tail =>
          have hd : d = '\n' := (List.cons_prefix_cons.1 hpre).1
          rw [hline, hd] at hfeed
          exact absurd (List.mem_append_right _ List.mem_cons_self) hfeed

/-- Where indentation is blank, a line that is written as it stands is one strip without
indentation. -/
theorem exists_lineStrips_eq_of_prefix (hindent : Text.isBlankText l.indent.toList = true)
    (hink : Text.isBlankText line = false) (hfeed : '\n' ∉ line)
    (hpre : line ++ ['\n'] <+: l.write (l.lineStrips s.atLineStart .empty line) ++ later) :
    ∃ level, l.lineStrips s.atLineStart .empty line = [⟨level, line, false⟩] ∧
      l.margin level = [] := by
  obtain ⟨t, ts, -, hstrips, -⟩ :=
    exists_lineStrips_eq_cons (begun_empty l (s := s.atLineStart) rfl) line
  have hfirst := first_lineStrips hink hstrips
  rw [hstrips, write_cons, line_eq_margin, List.append_assoc, List.append_assoc,
    List.append_assoc] at hpre
  have hmargin := hfirst.margin_eq_nil hindent hink ((List.prefix_append line ['\n']).trans hpre)
  rw [hmargin, List.nil_append] at hpre
  exact ⟨t.level, hstrips.trans (hfirst.eq_of_not_forced (hfirst.not_forced hfeed hpre)), hmargin⟩

/-! ### Lines one after the other -/

/-- The lines as they stand. -/
def asWritten (lines : List (List Char)) : List Char := lines.flatMap (· ++ ['\n'])

/-- After a line that is one strip no parenthesis is wrapped. -/
theorem Unwrapped.formatLine (h : Unwrapped s.nesting opened)
    (hink : Text.isBlankText line = false) {level : Nat}
    (hone : l.lineStrips s.atLineStart .empty line = [⟨level, line, false⟩]) :
    Unwrapped (l.formatLine s line).1.nesting (Bracket.readAll opened line) := by
  have hforced : ∀ t ∈ l.lineStrips s.atLineStart .empty line, t.forced = false := by
    rw [hone, List.forall_mem_singleton]
  have hnesting : (l.formatLine s line).1.nesting = line.foldl (Nesting.read false) s.nesting := by
    rw [Layout.formatLine, hink]
    exact nesting_steps hforced
  rw [hnesting]
  exact h.readAll line

theorem write_strips_cons (hink : Text.isBlankText line = false) {level : Nat}
    (hone : l.lineStrips s.atLineStart .empty line = [⟨level, line, false⟩])
    (hmargin : l.margin level = []) :
    l.write (l.strips s (line :: lines))
      = line ++ ['\n'] ++ l.write (l.strips (l.formatLine s line).1 lines) := by
  rw [strips, hink, if_neg Bool.false_ne_true, hone, List.singleton_append, write_cons,
    line_eq_margin, hmargin, List.nil_append]

/-- Lines that are neither indented nor broken are written as they stand. -/
theorem LeavesAlone.prefix_write (h : l.LeavesAlone opened lines) (hs : Unwrapped s.nesting opened)
    (hink : ∀ line ∈ lines, Text.isBlankText line = false) (more : List (List Char)) :
    asWritten lines <+: l.write (l.strips s (lines ++ more)) := by
  induction lines generalizing s opened with
  | nil => exact List.nil_prefix
  | cons line lines ih =>
      rw [List.forall_mem_cons] at hink
      obtain ⟨hlevel, hnarrow, hlater⟩ := h
      obtain ⟨level, hone, hmargin⟩ := (exists_lineStrips_eq_iff hs hink.1).2 ⟨hlevel, hnarrow⟩
      rw [List.cons_append, write_strips_cons hink.1 hone hmargin, asWritten, List.flatMap_cons,
        List.prefix_append_right_inj]
      exact ih hlater (hs.formatLine hink.1 hone) hink.2

/-- Where indentation is blank, no other lines are written as they stand. -/
theorem leavesAlone_of_prefix_write (hindent : Text.isBlankText l.indent.toList = true)
    (hs : Unwrapped s.nesting opened)
    (hlines : ∀ line ∈ lines, Text.isBlankText line = false ∧ '\n' ∉ line)
    (hpre : asWritten lines <+: l.write (l.strips s (lines ++ more))) :
    l.LeavesAlone opened lines := by
  induction lines generalizing s opened with
  | nil => trivial
  | cons line lines ih =>
      rw [List.forall_mem_cons] at hlines
      obtain ⟨⟨hink, hfeed⟩, hlater⟩ := hlines
      have hfirst : line ++ ['\n'] <+: l.write (l.lineStrips s.atLineStart .empty line)
          ++ l.write (l.strips (l.formatLine s line).1 (lines ++ more)) := by
        have hwhole := (List.prefix_append (line ++ ['\n']) (asWritten lines)).trans hpre
        rwa [List.cons_append, strips, hink, if_neg Bool.false_ne_true, write_append] at hwhole
      obtain ⟨level, hone, hmargin⟩ := exists_lineStrips_eq_of_prefix hindent hink hfeed hfirst
      rw [List.cons_append, write_strips_cons hink hone hmargin, asWritten, List.flatMap_cons,
        List.prefix_append_right_inj] at hpre
      obtain ⟨hlevel, hnarrow⟩ := (exists_lineStrips_eq_iff hs hink).1 ⟨level, hone, hmargin⟩
      exact ⟨hlevel, hnarrow, ih (hs.formatLine hink hone) hlater hpre⟩

theorem unwrapped_start : Unwrapped State.start.nesting [] where
  levels := levels_start
  depth := rfl
  none := List.not_mem_nil

end Layout

end ClassInference
