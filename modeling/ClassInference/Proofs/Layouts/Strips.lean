import ClassInference.Proofs.Layouts.Breaks
import Mathlib.Data.List.Forall2

/-!
# Strips

What is laid out is a row of strips, a line of the output each: an indentation of whole levels and
a piece of a line of the text. A line of the text is cut after an opening brace, a semicolon or an
opening parenthesis only, and nothing of it is lost but blanks at the cuts.
-/

namespace ClassInference

namespace Layout

/-- A line of the output: the levels it is indented by and what is written after them; `forced`
says that the line of the text goes on in the next strip. -/
structure Strip where
  level : Nat
  text : List Char
  forced : Bool
deriving Repr, DecidableEq

/-- The line of the output that nothing has been written on. -/
def Strip.empty : Strip := ⟨0, [], false⟩

/-- The strip with one more character; the first one settles the level. -/
def Strip.push (s : State) (t : Strip) (c : Char) : Strip :=
  if s.pending then ⟨if c = '}' then s.depth - 1 else s.depth, [c], false⟩
  else { t with text := t.text ++ [c] }

/-- The strip, cut off after what has been written on it. -/
def Strip.cut (t : Strip) : Strip := { t with forced := true }

/-- The strips of the rest of a line, the first of which has been begun. -/
def lineStrips (l : Layout) (s : State) (begun : Strip) : List Char → List Strip
  | [] => [begun]
  | c :: rest =>
    let next := (l.step s (Text.isBlankText rest) c).1
    if Text.isBlank c && s.broken then l.lineStrips next begun rest
    else if l.forcesBreak s (Text.isBlankText rest) c then
      (begun.push s c).cut :: l.lineStrips next .empty rest
    else l.lineStrips next (begun.push s c) rest

/-- The strips of lines. -/
def strips (l : Layout) (s : State) : List (List Char) → List Strip
  | [] => []
  | line :: rest =>
    (if Text.isBlankText line then [.empty] else l.lineStrips s.atLineStart .empty line)
      ++ l.strips (l.formatLine s line).1 rest

/-- The line of the output that a strip is: as many copies of the indentation as it has levels, and
the text. -/
def line (l : Layout) (t : Strip) : List Char :=
  (List.replicate t.level l.indent.toList).flatten ++ t.text

/-- Strips one under the other. -/
def write (l : Layout) (ts : List Strip) : List Char := ts.flatMap fun t => l.line t ++ ['\n']

/-- Lines of a text, cut into strips. A line of blanks becomes an empty strip, and every other line
becomes one strip or more: between two of them blanks are left out, the earlier one ends where a
line may be broken, and the later one starts with a character that is not blank. -/
inductive Cuts : List (List Char) → List Strip → Prop
  | nil : Cuts [] []
  | blank {line : List Char} {lines : List (List Char)} {ts : List Strip}
      (hblank : Text.isBlankText line = true) (hlines : Cuts lines ts) :
      Cuts (line :: lines) (.empty :: ts)
  | whole {line : List Char} {lines : List (List Char)} {ts : List Strip} (level : Nat)
      (hink : Text.isBlankText line = false) (hlines : Cuts lines ts) :
      Cuts (line :: lines) (⟨level, line, false⟩ :: ts)
  | cut {start gap rest : List Char} {c : Char} {lines : List (List Char)} {t : Strip}
      {ts : List Strip} (level : Nat) (hc : c = '{' ∨ c = ';' ∨ c = '(')
      (hgap : Text.isBlankText gap = true)
      (hstart : ∃ d tail, t.text = d :: tail ∧ Text.isBlank d = false)
      (hrest : Cuts (rest :: lines) (t :: ts)) :
      Cuts ((start ++ [c] ++ gap ++ rest) :: lines) (⟨level, start ++ [c], true⟩ :: t :: ts)

variable {l : Layout} {s : State} {t begun : Strip} {c : Char} {cs rest : List Char}
  {lines : List (List Char)} {ts later : List Strip} {endsLine : Bool}

/-! ### The strip that is being written -/

/-- The strip holds what stands on the current line of the output. -/
structure Begun (l : Layout) (s : State) (t : Strip) : Prop where
  forced : t.forced = false
  pending : s.pending = true → t = .empty
  inside : s.pending = false → s.Inside (l.line t).length
  nonempty : s.pending = false → t.text ≠ []

theorem begun_empty (l : Layout) (hpending : s.pending = true) : Begun l s .empty where
  forced := rfl
  pending := fun _ => rfl
  inside := fun h => absurd (hpending.symm.trans h) Bool.noConfusion
  nonempty := fun h => absurd (hpending.symm.trans h) Bool.noConfusion

theorem line_empty (l : Layout) : l.line .empty = [] := rfl

theorem line_eq_margin (l : Layout) (t : Strip) : l.line t = l.margin t.level ++ t.text := rfl

theorem Begun.line_push (h : Begun l s t) (c : Char) :
    l.line (t.push s c) = l.line t ++ l.lead s c ++ [c] := by
  unfold Strip.push lead
  split
  · rename_i hpending
    rw [h.pending hpending, line_empty]
    rfl
  · rw [List.append_nil]
    exact (List.append_assoc _ _ _).symm

theorem Begun.text_push (h : Begun l s t) (c : Char) : (t.push s c).text = t.text ++ [c] := by
  unfold Strip.push
  split
  · rename_i hpending
    rw [h.pending hpending]
    rfl
  · rfl

theorem text_push_ne_nil (s : State) (t : Strip) (c : Char) : (t.push s c).text ≠ [] := by
  unfold Strip.push
  split <;> simp

theorem Begun.push (h : Begun l s t) (hkept : (Text.isBlank c && s.broken) = false)
    (hforces : l.forcesBreak s endsLine c = false) :
    Begun l (l.step s endsLine c).1 (t.push s c) := by
  have hinside : (l.step s endsLine c).1.Inside (l.line (t.push s c)).length := by
    have hcolumn : (l.line (t.push s c)).length
        = if s.pending then (if c = '}' then s.depth - 1 else s.depth) * l.indent.toList.length + 1
          else s.column + 1 := by
      rw [h.line_push, lead]
      split
      · rename_i hpending
        rw [h.pending hpending, line_empty]
        simp [length_margin]
      · rename_i hpending
        rw [(h.inside (by simpa using hpending)).column]
        simp
    rw [step_of_keeps hforces, hcolumn]
    exact inside_step hkept
  constructor
  · unfold Strip.push
    split
    · rfl
    · exact h.forced
  · intro hpending
    exact absurd (hinside.pending.symm.trans hpending) Bool.noConfusion
  · exact fun _ => hinside
  · exact fun _ => text_push_ne_nil s t c

/-- After a forced break the next line is still to be begun. -/
theorem step_of_forces (h : l.forcesBreak s endsLine c = true) :
    (l.step s endsLine c).1.pending = true ∧ (l.step s endsLine c).1.broken = true := by
  rw [forcesBreak, Bool.and_eq_true, Bool.or_eq_true, Bool.or_eq_true, Bool.and_eq_true,
    beq_iff_eq, beq_iff_eq, beq_iff_eq] at h
  obtain ⟨hwide, (rfl | rfl) | ⟨rfl, hwrap⟩⟩ := h
  · have hout : l.putOpenBrace s endsLine = breakLine _ := if_pos hwide
    change (l.putOpenBrace s endsLine).1.pending = true ∧ (l.putOpenBrace s endsLine).1.broken = true
    rw [hout]
    exact ⟨rfl, rfl⟩
  · have hout : l.putSemicolon s endsLine = breakLine _ := if_pos hwide
    change (l.putSemicolon s endsLine).1.pending = true ∧ (l.putSemicolon s endsLine).1.broken = true
    rw [hout]
    exact ⟨rfl, rfl⟩
  · have hwraps : ((l.put s '(').1.wrap.isNone && l.isWide (l.put s '(').1 endsLine) = true := by
      rw [wrap_put, hwrap, hwide]
      rfl
    have hout : l.putOpenParen s endsLine = breakLine _ := if_pos hwraps
    change (l.putOpenParen s endsLine).1.pending = true ∧ (l.putOpenParen s endsLine).1.broken = true
    rw [hout]
    exact ⟨rfl, rfl⟩

/-! ### Strips are what is written -/

theorem write_cons (l : Layout) (t : Strip) (ts : List Strip) :
    l.write (t :: ts) = l.line t ++ ['\n'] ++ l.write ts := rfl

theorem write_append (l : Layout) (ts us : List Strip) :
    l.write (ts ++ us) = l.write ts ++ l.write us := List.flatMap_append

theorem ne_of_isBlank {d : Char} (hc : Text.isBlank c = true) (hd : Text.isBlank d = false) :
    c ≠ d := by
  rintro rfl
  exact Bool.noConfusion (hc.symm.trans hd)

/-- A dropped blank changes nothing. -/
theorem step_of_dropped (h : (Text.isBlank c && s.broken) = true) :
    l.step s endsLine c = (s, []) := by
  have hblank : Text.isBlank c = true := (Bool.and_eq_true _ _ ▸ h).1
  rw [step, if_neg (ne_of_isBlank hblank (by decide)), if_neg (ne_of_isBlank hblank (by decide)),
    if_neg (ne_of_isBlank hblank (by decide)), if_neg (ne_of_isBlank hblank (by decide)),
    if_neg (ne_of_isBlank hblank (by decide)), if_pos h]

theorem write_lineStrips (h : Begun l s begun) (cs : List Char) :
    l.write (l.lineStrips s begun cs) = l.line begun ++ (l.steps s cs).2 ++ ['\n'] := by
  induction cs generalizing s begun with
  | nil => simp [lineStrips, write, steps]
  | cons c cs ih =>
      rw [lineStrips, steps]
      split
      · rename_i hdropped
        rw [step_of_dropped hdropped, ih h, List.nil_append]
      · rename_i hkept
        rw [Bool.not_eq_true] at hkept
        have hout := l.output_step s (Text.isBlankText cs) c
        rw [hkept, if_neg Bool.false_ne_true] at hout
        split
        · rename_i hforces
          rw [hforces, feed, if_pos rfl] at hout
          have hline : l.line (begun.push s c).cut = l.line begun ++ l.lead s c ++ [c] :=
            h.line_push c
          rw [write_cons, ih (begun_empty l (step_of_forces hforces).1), hout, hline, line_empty]
          simp
        · rename_i hforces
          rw [Bool.not_eq_true] at hforces
          rw [hforces, feed, if_neg Bool.false_ne_true] at hout
          rw [ih (h.push hkept hforces), h.line_push, hout]
          simp

theorem write_strips (l : Layout) (s : State) (lines : List (List Char)) :
    l.write (l.strips s lines) = (l.formatLines s lines).2 := by
  induction lines generalizing s with
  | nil => rfl
  | cons line lines ih =>
      have hline : l.write (if Text.isBlankText line then [.empty]
          else l.lineStrips s.atLineStart .empty line) = (l.formatLine s line).2 := by
        rw [formatLine]
        split
        · rfl
        · rw [write_lineStrips (begun_empty l rfl), line_empty]
          rfl
      rw [strips, write_append, ih, hline]
      rfl

/-- The lines of the output are the strips, if neither the indentation nor a line of the text has a
line feed. -/
theorem lines_write (hfeed : ∀ t ∈ ts, '\n' ∉ l.line t) :
    Text.lines (l.write ts) = ts.map l.line ++ [[]] := by
  induction ts with
  | nil => rfl
  | cons t ts ih =>
      rw [List.forall_mem_cons] at hfeed
      rw [write_cons, List.append_assoc, List.singleton_append, Text.lines_append, ih hfeed.2,
        Text.lines_of_not_mem hfeed.1]
      rfl

/-! ### Strips are what the lines are cut into -/

theorem forcesBreak_eq_true_iff :
    l.forcesBreak s endsLine c = true ↔ endsLine = false ∧
      (c = '{' ∨ c = ';' ∨ c = '(' ∧ s.wrap = none) ∧ l.maxWidth ≤ (l.put s c).1.column := by
  rw [← Bool.not_eq_false, forcesBreak_eq_false_iff, Classical.not_imp, Classical.not_imp, Nat.not_lt]

/-- The strip that has been begun is the first one, with more on it. -/
theorem exists_lineStrips_eq_cons (h : Begun l s begun) (cs : List Char) :
    ∃ t ts more, l.lineStrips s begun cs = t :: ts ∧ t.text = begun.text ++ more := by
  induction cs generalizing s begun with
  | nil => exact ⟨begun, [], [], rfl, (List.append_nil _).symm⟩
  | cons c cs ih =>
      rw [lineStrips]
      split
      · rename_i hdropped
        rw [step_of_dropped hdropped]
        exact ih h
      · rename_i hkept
        rw [Bool.not_eq_true] at hkept
        split
        · exact ⟨_, _, [c], rfl, h.text_push c⟩
        · rename_i hforces
          rw [Bool.not_eq_true] at hforces
          obtain ⟨t, ts, more, hstrips, htext⟩ := ih (h.push hkept hforces)
          refine ⟨t, ts, c :: more, hstrips, ?_⟩
          rw [htext, h.text_push, List.append_assoc]
          rfl

/-- After blanks of the line, the strips are those of the rest of it. -/
def Resumes (lines : List (List Char)) (cs : List Char) (ts : List Strip) : Prop :=
  ∃ gap rest t us d tail, cs = gap ++ rest ∧ Text.isBlankText gap = true ∧ ts = t :: us ∧
    t.text = d :: tail ∧ Text.isBlank d = false ∧ Cuts (rest :: lines) ts

theorem cuts_of_resumes (start : List Char) (level : Nat) (hc : c = '{' ∨ c = ';' ∨ c = '(')
    (h : Resumes lines cs ts) :
    Cuts ((start ++ [c] ++ cs) :: lines) (⟨level, start ++ [c], true⟩ :: ts) := by
  obtain ⟨gap, rest, t, us, d, tail, rfl, hgap, rfl, htext, hd, hrest⟩ := h
  rw [← List.append_assoc]
  exact .cut level hc hgap ⟨d, tail, htext, hd⟩ hrest

theorem Resumes.cons (h : Resumes lines cs ts) (hc : Text.isBlank c = true) :
    Resumes lines (c :: cs) ts := by
  obtain ⟨gap, rest, t, us, d, tail, rfl, hgap, hts⟩ := h
  refine ⟨c :: gap, rest, t, us, d, tail, rfl, ?_, hts⟩
  rw [Text.isBlankText, List.all_cons, hc]
  exact hgap

theorem resumes_of_cuts (hc : Text.isBlank c = false) {more : List Char} (ht : t.text = c :: more)
    (h : Cuts ((c :: cs) :: lines) (t :: ts)) : Resumes lines (c :: cs) (t :: ts) :=
  ⟨[], c :: cs, t, ts, c, more, rfl, rfl, rfl, ht, hc, h⟩

theorem Begun.text_of_broken (h : Begun l s t) (hbroken : s.broken = true) : t.text = [] := by
  cases hpending : s.pending with
  | true => rw [h.pending hpending]; rfl
  | false => exact absurd (hbroken.symm.trans (h.inside hpending).broken) Bool.noConfusion

theorem cuts_lineStrips (h : Begun l s begun) (hink : Text.isBlankText (begun.text ++ cs) = false)
    (hlater : Cuts lines later) :
    (s.broken = false → Cuts ((begun.text ++ cs) :: lines) (l.lineStrips s begun cs ++ later)) ∧
      (s.broken = true → Resumes lines cs (l.lineStrips s begun cs ++ later)) := by
  induction cs generalizing s begun with
  | nil =>
      rw [List.append_nil] at hink ⊢
      constructor
      · intro _
        have hbegun : begun = ⟨begun.level, begun.text, false⟩ := by rw [← h.forced]
        rw [lineStrips, List.singleton_append]
        exact hbegun ▸ .whole begun.level hink hlater
      · intro hbroken
        rw [h.text_of_broken hbroken] at hink
        exact absurd hink (by decide)
  | cons c cs ih =>
      rw [lineStrips]
      split
      · rename_i hdropped
        rw [Bool.and_eq_true] at hdropped
        have htext := h.text_of_broken hdropped.2
        rw [step_of_dropped (by rw [hdropped.1, hdropped.2]; rfl)]
        refine ⟨fun hkept => absurd (hdropped.2.symm.trans hkept) Bool.noConfusion, fun hbroken => ?_⟩
        apply Resumes.cons _ hdropped.1
        apply (ih h _).2 hbroken
        rw [htext, List.nil_append, Text.isBlankText, List.all_cons, hdropped.1] at hink
        rw [htext]
        exact hink
      · rename_i hkept
        rw [Bool.not_eq_true] at hkept
        have hstart : s.broken = true → Text.isBlank c = false := by
          intro hbroken
          rwa [hbroken, Bool.and_true] at hkept
        split
        · rename_i hforces
          obtain ⟨hpending, hbroken⟩ := step_of_forces hforces
          obtain ⟨hmore, hc, -⟩ := forcesBreak_eq_true_iff.1 hforces
          have hresumes := (ih (begun_empty l hpending) hmore).2 hbroken
          have hcut := cuts_of_resumes begun.text (begun.push s c).level
            (hc.imp_right (Or.imp_right And.left)) hresumes
          have hpush : (begun.push s c).cut
              = ⟨(begun.push s c).level, begun.text ++ [c], true⟩ := by
            rw [← h.text_push]
            rfl
          rw [hpush]
          constructor
          · intro _
            rw [List.append_assoc] at hcut
            exact hcut
          · intro hbroken
            rw [h.text_of_broken hbroken] at hcut ⊢
            exact resumes_of_cuts (hstart hbroken) rfl hcut
        · rename_i hforces
          rw [Bool.not_eq_true] at hforces
          have hbegun := h.push hkept hforces
          have hline : (begun.push s c).text ++ cs = begun.text ++ c :: cs := by
            rw [h.text_push, List.append_assoc]
            rfl
          have hnext : (l.step s (Text.isBlankText cs) c).1.broken = false := by
            cases hpending : (l.step s (Text.isBlankText cs) c).1.pending with
            | false => exact (hbegun.inside hpending).broken
            | true => exact absurd (hbegun.pending hpending ▸ rfl) (text_push_ne_nil s begun c)
          have hcuts := (ih hbegun (by rwa [hline])).1 hnext
          rw [hline] at hcuts
          refine ⟨fun _ => hcuts, fun hbroken => ?_⟩
          obtain ⟨t, ts, more, hstrips, htext⟩ := exists_lineStrips_eq_cons hbegun cs
          rw [h.text_push, h.text_of_broken hbroken] at htext
          rw [h.text_of_broken hbroken, hstrips] at hcuts
          rw [hstrips]
          exact resumes_of_cuts (hstart hbroken) htext hcuts

/-- The strips of lines are what the lines are cut into. -/
theorem cuts_strips (l : Layout) (s : State) (lines : List (List Char)) :
    Cuts lines (l.strips s lines) := by
  induction lines generalizing s with
  | nil => exact .nil
  | cons line lines ih =>
      rw [strips]
      split
      · rename_i hblank
        exact .blank hblank (ih _)
      · rename_i hink
        rw [Bool.not_eq_true] at hink
        exact (cuts_lineStrips (begun_empty l rfl) hink (ih _)).1 rfl

theorem Cuts.not_mem_text {x : Char} (h : Cuts lines ts) (hlines : ∀ line ∈ lines, x ∉ line) :
    ∀ t ∈ ts, x ∉ t.text := by
  induction h with
  | nil => exact fun t ht => absurd ht List.not_mem_nil
  | blank _ _ ih =>
      rw [List.forall_mem_cons] at hlines
      exact List.forall_mem_cons.2 ⟨List.not_mem_nil, ih hlines.2⟩
  | whole _ _ _ ih =>
      rw [List.forall_mem_cons] at hlines
      exact List.forall_mem_cons.2 ⟨hlines.1, ih hlines.2⟩
  | cut _ _ _ _ _ ih =>
      rw [List.forall_mem_cons] at hlines
      obtain ⟨hline, hlines⟩ := hlines
      rw [List.mem_append, List.mem_append, not_or, not_or] at hline
      exact List.forall_mem_cons.2 ⟨hline.1.1, ih (List.forall_mem_cons.2 ⟨hline.2, hlines⟩)⟩

/-- A strip that is cut off is not empty, and its line goes on in the next strip. -/
theorem Cuts.goesOn (h : Cuts lines ts) :
    ∀ before t after, ts = before ++ t :: after → t.forced = true →
      (∃ start c, t.text = start ++ [c]) ∧ ∃ next later d tail,
        after = next :: later ∧ next.text = d :: tail ∧ Text.isBlank d = false := by
  induction h with
  | nil =>
      intro before t after hsplit
      simp at hsplit
  | blank _ _ ih =>
      rw [forall_split_cons_iff]
      exact ⟨fun hforced => Bool.noConfusion hforced, fun _ => ih _⟩
  | whole _ _ _ ih =>
      rw [forall_split_cons_iff]
      exact ⟨fun hforced => Bool.noConfusion hforced, fun _ => ih _⟩
  | cut _ _ _ hstart _ ih =>
      rw [forall_split_cons_iff]
      obtain ⟨d, tail, htext, hd⟩ := hstart
      exact ⟨fun _ => ⟨⟨_, _, rfl⟩, _, _, d, tail, rfl, htext, hd⟩, fun _ => ih _⟩

/-- The lines of the output are the strips. -/
theorem lines_format (hfeed : '\n' ∉ l.indent.toList) (text : String) :
    Text.lines (l.format text).toList
      = (l.strips .start (contentLines text.toList)).map l.line ++ [[]] := by
  have hmargin : ∀ depth, '\n' ∉ l.margin depth := by
    intro depth hmem
    obtain ⟨indent, hindent, hmem⟩ := List.mem_flatten.1 hmem
    rw [List.eq_of_mem_replicate hindent] at hmem
    exact hfeed hmem
  rw [format, String.toList_ofList, ← write_strips]
  apply lines_write
  intro t ht hmem
  rcases List.mem_append.1 hmem with hmem | hmem
  · exact hmargin t.level hmem
  · exact (cuts_strips l .start _).not_mem_text (fun line => not_mem_of_mem_contentLines) t ht hmem

/-- The lines that are laid out are the lines of the text, up to the last one that is not blank,
each without a carriage return that ends it. -/
theorem exists_contentLines_eq_map (text : List Char) :
    ∃ kept dropped, Text.lines text = kept ++ dropped ∧
      (∀ line ∈ dropped, Text.isBlankText line = true) ∧
      (∀ line ∈ kept.getLast?, Text.isBlankText line = false) ∧
      contentLines text = kept.map stripReturn := by
  refine ⟨((Text.lines text).reverse.dropWhile Text.isBlankText).reverse,
    ((Text.lines text).reverse.takeWhile Text.isBlankText).reverse, ?_, ?_, ?_, rfl⟩
  · rw [← List.reverse_append, List.takeWhile_append_dropWhile, List.reverse_reverse]
  · intro line hline
    exact List.all_eq_true.1 List.all_takeWhile line (List.mem_reverse.1 hline)
  · intro line hline
    have hhead := List.head?_dropWhile_not Text.isBlankText (Text.lines text).reverse
    rw [List.getLast?_reverse, Option.mem_def] at hline
    rwa [hline] at hhead

/-- The layout changes nothing but blanks at the ends of lines: what it writes are the strips that
the lines of the text are cut into, without the blank ones at its end and without a carriage return
that ends a line. Each strip stands after its indentation and before a line feed. -/
theorem cuts_format (l : Layout) (text : String) :
    ∃ kept dropped bare ts, Text.LinesOf text.toList (kept ++ dropped) ∧
      (∀ line ∈ dropped, Text.isBlankText line = true) ∧
      (∀ line ∈ kept.getLast?, Text.isBlankText line = false) ∧
      List.Forall₂ WithoutReturn kept bare ∧ Cuts bare ts ∧
      (l.format text).toList = ts.flatMap fun t =>
        (List.replicate t.level l.indent.toList).flatten ++ t.text ++ ['\n'] := by
  obtain ⟨kept, dropped, hlines, hdropped, hkept, hcontent⟩ :=
    exists_contentLines_eq_map text.toList
  refine ⟨kept, dropped, contentLines text.toList, l.strips .start (contentLines text.toList),
    hlines ▸ Text.linesOf_lines text.toList, hdropped, hkept, ?_, cuts_strips l .start _, ?_⟩
  · rw [hcontent, List.forall₂_map_right_iff]
    exact List.forall₂_same.2 fun line _ => withoutReturn_stripReturn line
  · rw [format, String.toList_ofList, ← write_strips]
    rfl

end Layout

end ClassInference
