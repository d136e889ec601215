import ClassInference.Proofs.Layouts.Widths

/-!
# Indentation

Where the brackets of a text are properly nested, a line of the output is indented by one level for
each open brace and by two more inside a wrapped parenthesis, and at the end of the text nothing is
open. The depth that a wrap goes back to is right since everything opened inside it is closed.
-/

namespace ClassInference

namespace Layout

/-! ### Properly nested brackets -/

/-- The brackets of a text, with those of `opened` before it, innermost first, are closed in the
right order. -/
def closesAll : List Char → List Char → Bool
  | opened, [] => opened.isEmpty
  | opened, c :: cs =>
    if c = '{' ∨ c = '(' then closesAll (c :: opened) cs
    else if c = '}' then opened.head? == some '{' && closesAll opened.tail cs
    else if c = ')' then opened.head? == some '(' && closesAll opened.tail cs
    else closesAll opened cs

/-- The braces and parentheses of a text are properly nested. -/
def Nested (cs : List Char) : Prop := closesAll [] cs = true

instance (cs : List Char) : Decidable (Nested cs) := inferInstanceAs (Decidable (_ = true))

def Bracket.char : Bracket → Char
  | brace => '{'
  | paren _ => '('

variable {l : Layout} {opened : List Bracket} {n : Nesting} {c : Char} {cs rest : List Char}
  {wraps : Bool}

/-- Characters that are blank do not matter for the nesting. -/
theorem closesAll_ink (chars cs : List Char) : closesAll chars (ink cs) = closesAll chars cs := by
  induction cs generalizing chars with
  | nil => rfl
  | cons c cs ih =>
      cases hc : Text.isBlank c with
      | false =>
          have hink : ink (c :: cs) = c :: ink cs := List.filter_cons_of_pos (by simp [hc])
          rw [hink, closesAll, closesAll, ih, ih, ih]
      | true =>
          have hink : ink (c :: cs) = ink cs := List.filter_cons_of_neg (by simp [hc])
          have hskip : closesAll chars (c :: cs) = closesAll chars cs := by
            rw [closesAll, if_neg, if_neg (ne_of_isBlank hc (by decide)),
              if_neg (ne_of_isBlank hc (by decide))]
            rintro (rfl | rfl)
            · exact absurd hc (by decide)
            · exact absurd hc (by decide)
          rw [hink, hskip, ih]

/-- The lines that are laid out have the brackets of the text. -/
theorem nested_contentLines (h : Nested cs) : Nested (contentLines cs).flatten := by
  rw [Nested, ← closesAll_ink, ink_contentLines, closesAll_ink]
  exact h

/-- A closing brace of a properly nested text closes the innermost bracket. -/
theorem closesAll_brace (h : closesAll (opened.map Bracket.char) ('}' :: rest) = true) :
    ∃ outer, opened = .brace :: outer ∧ closesAll (outer.map Bracket.char) rest = true := by
  have hhead : (opened.map Bracket.char).head? == some '{'
      && closesAll (opened.map Bracket.char).tail rest := h
  rw [Bool.and_eq_true, beq_iff_eq] at hhead
  cases opened with
  | nil => exact absurd hhead.1 (by simp)
  | cons bracket outer =>
      cases bracket with
      | brace => exact ⟨outer, rfl, hhead.2⟩
      | paren wrapped => exact absurd hhead.1 (by simp [Bracket.char])

/-- A closing parenthesis of a properly nested text closes the innermost bracket. -/
theorem closesAll_paren (h : closesAll (opened.map Bracket.char) (')' :: rest) = true) :
    ∃ wrapped outer, opened = .paren wrapped :: outer ∧
      closesAll (outer.map Bracket.char) rest = true := by
  have hhead : (opened.map Bracket.char).head? == some '('
      && closesAll (opened.map Bracket.char).tail rest := h
  rw [Bool.and_eq_true, beq_iff_eq] at hhead
  cases opened with
  | nil => exact absurd hhead.1 (by simp)
  | cons bracket outer =>
      cases bracket with
      | brace => exact absurd hhead.1 (by simp [Bracket.char])
      | paren wrapped => exact ⟨wrapped, outer, rfl, hhead.2⟩

/-! ### The depth -/

/-- The levels that a line is indented by inside these brackets: one for each brace, and two more
inside a wrapped parenthesis. -/
def levelIn (opened : List Bracket) : Nat :=
  opened.count .brace + if .paren true ∈ opened then 2 else 0

/-- The depth that a wrap goes back to is the number of braces around its parenthesis. -/
def Saves (wrap : Option Wrap) (opened : List Bracket) : Prop :=
  ∀ w inner outer, wrap = some w → opened = inner ++ .paren true :: outer →
    w.depth = outer.count .brace

/-- The depth follows the open brackets. -/
structure Deep (n : Nesting) (opened : List Bracket) : Prop where
  depth : n.depth = levelIn opened
  saves : Saves n.wrap opened

theorem saves_none (opened : List Bracket) : Saves none opened :=
  fun _ _ _ hwrap => absurd hwrap.symm (Option.some_ne_none _)

theorem saves_cons_iff {bracket : Bracket} {wrap : Option Wrap} (h : bracket ≠ .paren true) :
    Saves wrap (bracket :: opened) ↔ Saves wrap opened := by
  constructor
  · intro hsaves w inner outer hwrap hsplit
    exact hsaves w (bracket :: inner) outer hwrap (congrArg _ hsplit)
  · intro hsaves w inner outer hwrap hsplit
    cases inner with
    | nil => exact absurd (List.cons.inj hsplit).1 h
    | cons first inner => exact hsaves w inner outer hwrap (List.cons.inj hsplit).2

theorem levelIn_brace (opened : List Bracket) :
    levelIn (.brace :: opened) = levelIn opened + 1 := by
  have hmem : .paren true ∈ .brace :: opened ↔ .paren true ∈ opened := by simp
  rw [levelIn, levelIn, List.count_cons_self, if_congr hmem rfl rfl]
  omega

theorem levelIn_paren (opened : List Bracket) :
    levelIn (.paren false :: opened) = levelIn opened := by
  have hmem : .paren true ∈ .paren false :: opened ↔ .paren true ∈ opened := by simp
  rw [levelIn, levelIn, List.count_cons_of_ne (by decide), if_congr hmem rfl rfl]

theorem levelIn_of_not_mem (h : .paren true ∉ opened) : levelIn opened = opened.count .brace := by
  rw [levelIn, if_neg h, Nat.add_zero]

theorem levelIn_wrapped (opened : List Bracket) :
    levelIn (.paren true :: opened) = opened.count .brace + 2 := by
  rw [levelIn, List.count_cons_of_ne (by decide), if_pos List.mem_cons_self]

/-- The wrapped parenthesis saves the depth around it. -/
theorem saves_wrapped {w : Wrap} (hdepth : w.depth = opened.count .brace)
    (h : .paren true ∉ opened) : Saves (some w) (.paren true :: opened) := by
  intro w' inner outer hwrap hsplit
  obtain rfl := Option.some.inj hwrap
  cases inner with
  | nil =>
      obtain ⟨-, rfl⟩ := List.cons.inj hsplit
      exact hdepth
  | cons first inner =>
      obtain ⟨-, rfl⟩ := List.cons.inj hsplit
      exact absurd (List.mem_append_right inner List.mem_cons_self) h

/-- In a properly nested text every character keeps the depth in step with the open brackets. -/
theorem keptByReading_nested :
    KeptByReading fun n opened cs =>
      Levels n (parens opened) ∧ Deep n opened ∧ closesAll (opened.map Bracket.char) cs = true := by
  intro n opened c rest wraps h hwraps
  refine ⟨keptByReading_levels n opened c rest wraps h.1 hwraps, ?_⟩
  obtain ⟨hlevels, ⟨hdepth, hsaves⟩, hcloses⟩ := h
  by_cases hbrace : c = '{'
  · subst hbrace
    refine ⟨⟨?_, (saves_cons_iff (by decide)).2 hsaves⟩, hcloses⟩
    exact (congrArg (· + 1) hdepth).trans (levelIn_brace opened).symm
  by_cases hclose : c = '}'
  · subst hclose
    obtain ⟨outer, rfl, hrest⟩ := closesAll_brace hcloses
    have hread : Bracket.read wraps (.brace :: outer) '}' = outer := rfl
    rw [levelIn_brace] at hdepth
    rw [hread]
    refine ⟨⟨?_, (saves_cons_iff (by decide)).1 hsaves⟩, hrest⟩
    exact congrArg (· - 1) hdepth
  by_cases hparen : c = '('
  · subst hparen
    cases wraps with
    | false =>
        exact ⟨⟨hdepth.trans (levelIn_paren opened).symm, (saves_cons_iff (by decide)).2 hsaves⟩,
          hcloses⟩
    | true =>
        have hnone := hlevels.wrap_eq_none_iff.1 (hwraps rfl rfl)
        rw [levelIn_of_not_mem hnone] at hdepth
        refine ⟨⟨?_, saves_wrapped hdepth hnone⟩, hcloses⟩
        exact (congrArg (· + 2) hdepth).trans (levelIn_wrapped opened).symm
  by_cases hend : c = ')'
  · subst hend
    obtain ⟨wrapped, outer, rfl, hrest⟩ := closesAll_paren hcloses
    have hread : Bracket.read wraps (.paren wrapped :: outer) ')' = outer := rfl
    have hclose : n.read wraps ')' = n.close := rfl
    rw [hread, hclose]
    refine ⟨?_, hrest⟩
    cases wrapped with
    | false =>
        rw [hlevels.close_of_false]
        rw [levelIn_paren] at hdepth
        exact ⟨hdepth, (saves_cons_iff (by decide)).1 hsaves⟩
    | true =>
        obtain ⟨w, hwrap, hclose⟩ := hlevels.close_of_true
        have hnone : .paren true ∉ outer := mem_parens_iff.not.1 hlevels.not_mem_of_true
        rw [hclose]
        refine ⟨?_, saves_none outer⟩
        rw [levelIn_of_not_mem hnone]
        exact hsaves w [] outer hwrap rfl
  · have hnext : n.read wraps c = n := by
      rw [Nesting.read, if_neg hbrace, if_neg hclose, if_neg hparen, if_neg hend]
    have hread : Bracket.read wraps opened c = opened := by
      rw [Bracket.read, if_neg hbrace, if_neg hclose, if_neg hparen, if_neg hend]
    rw [hnext, hread]
    rw [closesAll, if_neg (by simp [hbrace, hparen]), if_neg hclose, if_neg hend] at hcloses
    exact ⟨⟨hdepth, hsaves⟩, hcloses⟩

/-- Each strip is indented by as many levels as braces are open before it, one less if it begins
with a closing brace, and two more inside a wrapped parenthesis. -/
def FollowNesting (ts : List Strip) : Prop :=
  ∀ before t after c cs, ts = before ++ t :: after → t.text = c :: cs →
    t.level = (openAfter before).count .brace - (if c = '}' then 1 else 0)
      + if .paren true ∈ openAfter before then 2 else 0

/-- At the start of a properly nested text nothing is open, and its brackets are still to come. -/
theorem nested_start {text : String} (h : Nested text.toList) :
    Levels State.start.nesting (parens []) ∧ Deep State.start.nesting [] ∧
      closesAll ([].map Bracket.char) (contentLines text.toList).flatten = true :=
  ⟨levels_start, ⟨rfl, saves_none []⟩, nested_contentLines h⟩

theorem followNesting_strips {text : String} (h : Nested text.toList) :
    FollowNesting (l.strips .start (contentLines text.toList)) := by
  intro before t after c cs hsplit htext
  obtain ⟨s, rest, hmeets⟩ :=
    keptByReading_nested.metOn_strips (nested_start h) before t after hsplit [] c cs htext
  obtain ⟨later, -, hdeep, hcloses⟩ := hmeets.inv
  have hdepth : s.depth = levelIn (openAfter before) := hdeep.depth
  rw [hmeets.level rfl, hdepth, levelIn]
  split
  · rename_i hclose
    subst hclose
    obtain ⟨outer, hopened, -⟩ := closesAll_brace hcloses
    have hbrace : openAfter before = .brace :: outer := hopened
    rw [hbrace, List.count_cons_self]
    omega
  · rfl

/-- At the end of a properly nested text no wrap is open, and the depth is zero. -/
theorem ends_formatLines {text : String} (h : Nested text.toList) :
    (l.formatLines .start (contentLines text.toList)).1.wrap = none ∧
      (l.formatLines .start (contentLines text.toList)).1.depth = 0 := by
  obtain ⟨hlevels, hdeep, hcloses⟩ := keptByReading_nested.strips (l := l) (nested_start h)
  have hempty : (l.strips .start (contentLines text.toList)).foldl Strip.read [] = [] :=
    List.map_eq_nil_iff.1 (List.isEmpty_iff.1 hcloses)
  rw [hempty] at hlevels hdeep
  exact ⟨hlevels.wrap_eq_none_iff.2 List.not_mem_nil, hdeep.depth⟩

/-- Where braces and parentheses are properly nested, a strip is written after as many copies of the
indentation as braces are open before it, one less if it begins with a closing brace, and two more
inside a wrapped parenthesis; at the end nothing is open. If the indentation has no line feed, the
strips are the lines of the output. A line of the text that begins with blanks keeps them after its
indentation, and its first character is one of them. -/
theorem levels_format (l : Layout) {text : String} (h : Nested text.toList) :
    let lines := contentLines text.toList
    let ts := l.strips .start lines
    let indented := fun t : Strip => (List.replicate t.level l.indent.toList).flatten ++ t.text
    Cuts lines ts ∧ FollowNesting ts ∧
      (l.format text).toList = ts.flatMap (fun t => indented t ++ ['\n']) ∧
      ('\n' ∉ l.indent.toList → Text.lines (l.format text).toList = ts.map indented ++ [[]]) ∧
      (l.formatLines .start lines).1.wrap = none ∧ (l.formatLines .start lines).1.depth = 0 := by
  intro lines ts indented
  refine ⟨cuts_strips l .start lines, followNesting_strips h, ?_,
    fun hfeed => lines_format hfeed text, ends_formatLines h⟩
  have hwrite : l.write ts = ts.flatMap fun t => indented t ++ ['\n'] := rfl
  rw [format, String.toList_ofList, ← hwrite, write_strips]

/-- Inside a wrapped call and the brace that is open in it, a line is indented by four levels, and
nothing is open after the call. -/
theorem levels_format_wrappedCall :
    let l : Layout := ⟨"  ", 4⟩
    let text := "a \x7b\nf(x, \x7by\x7d) z;\n\x7d"
    Nested text.toList ∧
      l.strips .start (contentLines text.toList)
        = [⟨0, "a \x7b".toList, false⟩, ⟨1, "f(".toList, true⟩, ⟨3, "x, \x7b".toList, true⟩]
          ++ ⟨4, 'y' :: "\x7d) z;".toList, false⟩ :: [⟨0, "\x7d".toList, false⟩] ∧
      openAfter [⟨0, "a \x7b".toList, false⟩, ⟨1, "f(".toList, true⟩, ⟨3, "x, \x7b".toList, true⟩]
        = [.brace, .paren true, .brace] ∧
      4 = (openAfter [⟨0, "a \x7b".toList, false⟩, ⟨1, "f(".toList, true⟩,
          ⟨3, "x, \x7b".toList, true⟩]).count .brace - 0 + 2 ∧
      (l.formatLines .start (contentLines text.toList)).1.depth = 0 := by
  intro l text
  have hnested : Nested text.toList := by decide +kernel
  have hstrips : l.strips .start (contentLines text.toList)
      = [⟨0, "a \x7b".toList, false⟩, ⟨1, "f(".toList, true⟩, ⟨3, "x, \x7b".toList, true⟩]
        ++ ⟨4, 'y' :: "\x7d) z;".toList, false⟩ :: [⟨0, "\x7d".toList, false⟩] := by
    decide +kernel
  obtain ⟨-, hlevel, -, -, -, hdepth⟩ := levels_format l hnested
  exact ⟨hnested, hstrips, by decide +kernel, hlevel _ _ _ _ _ hstrips rfl, hdepth⟩

/-- An indentation that has a line feed ends a line of the output: the line `a` is inside a brace,
and nothing stands before it. -/
theorem not_lines_followNesting_feedIndent :
    let l : Layout := ⟨"\n", 100⟩
    let text := "\x7b\na\n\x7d"
    Nested text.toList ∧
      Text.lines (l.format text).toList = [['{'], [], ['a'], ['}']] ++ [[]] ∧
      ¬ ∃ ts, FollowNesting ts ∧ Text.lines (l.format text).toList
        = ts.map (fun t => (List.replicate t.level l.indent.toList).flatten ++ t.text) ++ [[]] := by
  intro l text
  have hlines : Text.lines (l.format text).toList = [['{'], [], ['a'], ['}']] ++ [[]] := by
    decide +kernel
  refine ⟨by decide +kernel, hlines, ?_⟩
  rintro ⟨ts, hnesting, hts⟩
  have hnone : ∀ (t : Strip) (cs : List Char), '\n' ∉ cs →
      cs = (List.replicate t.level l.indent.toList).flatten ++ t.text → t = ⟨0, cs, t.forced⟩ := by
    rintro ⟨level, written, forced⟩ cs hfeed rfl
    cases level with
    | zero => rfl
    | succ level => exact absurd (by simp [l, List.replicate_succ]) hfeed
  rw [hlines, List.append_cancel_right_eq, eq_comm, List.map_eq_cons_iff] at hts
  obtain ⟨first, ts, rfl, hfirst, hts⟩ := hts
  obtain ⟨second, ts, rfl, hsecond, hts⟩ := List.map_eq_cons_iff.1 hts
  obtain ⟨third, ts, rfl, hthird, -⟩ := List.map_eq_cons_iff.1 hts
  have hlevel := hnesting [first, second] third ts 'a' []
  rw [hnone first _ (by decide) hfirst.symm, hnone second _ (by decide) hsecond.symm,
    hnone third _ (by decide) hthird.symm] at hlevel
  have hopened : ∀ b d, openAfter [⟨0, ['{'], b⟩, ⟨0, [], d⟩] = [.brace] := by decide
  rw [hopened] at hlevel
  exact Nat.zero_ne_one (hlevel rfl rfl)

end Layout

end ClassInference
