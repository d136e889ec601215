import ClassInference.Proofs.Layouts.Brackets

/-!
# Where lines are broken

A line is broken after a character that may break it, just if the character stands at the maximal
width or beyond and text of the line follows. An opening parenthesis may break a line only while no
other one is open that did, and the layout knows whether one is, in any text.
-/

namespace ClassInference

namespace Layout

/-! ### Open parentheses -/

def Bracket.wrapped? : Bracket → Option Bool
  | brace => none
  | paren wrapped => some wrapped

/-- The parentheses among open brackets: whether each of them is wrapped. -/
def parens (opened : List Bracket) : List Bool := opened.filterMap Bracket.wrapped?

/-- The level of the innermost wrapped parenthesis. -/
def wrapLevel : List Bool → Option Nat
  | [] => none
  | true :: ps => some (ps.length + 1)
  | false :: ps => wrapLevel ps

variable {l : Layout} {opened : List Bracket} {ps : List Bool} {n : Nesting} {c : Char}
  {wraps : Bool}

theorem mem_parens_iff : wraps ∈ parens opened ↔ .paren wraps ∈ opened := by
  rw [parens, List.mem_filterMap]
  constructor
  · rintro ⟨bracket, hmem, hwraps⟩
    cases bracket with
    | brace => exact absurd hwraps (by simp [Bracket.wrapped?])
    | paren wrapped =>
        obtain rfl : wrapped = wraps := Option.some.inj hwraps
        exact hmem
  · exact fun hmem => ⟨_, hmem, rfl⟩

theorem parens_erase_brace (opened : List Bracket) :
    parens (opened.erase .brace) = parens opened := by
  induction opened with
  | nil => rfl
  | cons bracket opened ih =>
      cases bracket with
      | brace => rw [List.erase_cons_head]; rfl
      | paren wrapped =>
          rw [List.erase_cons_tail (by decide +revert)]
          exact congrArg (wrapped :: ·) ih

theorem parens_eraseP_isParen (opened : List Bracket) :
    parens (opened.eraseP Bracket.isParen) = (parens opened).tail := by
  induction opened with
  | nil => rfl
  | cons bracket opened ih =>
      cases bracket with
      | brace => rw [List.eraseP_cons_of_neg (by decide)]; exact ih
      | paren wrapped => rw [List.eraseP_cons_of_pos rfl]; rfl

theorem wrapLevel_eq_none_iff : wrapLevel ps = none ↔ true ∉ ps := by
  induction ps with
  | nil => simp [wrapLevel]
  | cons wrapped ps ih => cases wrapped <;> simp [wrapLevel, ih]

theorem wrapLevel_le {k : Nat} (h : wrapLevel ps = some k) : k ≤ ps.length := by
  induction ps with
  | nil => exact absurd h (by simp [wrapLevel])
  | cons wrapped ps ih =>
      cases wrapped with
      | true => exact Nat.le_of_eq (Option.some.inj h).symm
      | false => exact Nat.le_succ_of_le (ih h)

/-- The layout knows the level of the parentheses and which of them is wrapped, and at most one
is. -/
structure Levels (n : Nesting) (ps : List Bool) : Prop where
  parenLevel : n.parenLevel = ps.length
  wrap : n.wrap.map (·.parenLevel) = wrapLevel ps
  once : ps.count true ≤ 1

theorem Levels.wrap_eq_none_iff (h : Levels n (parens opened)) :
    n.wrap = none ↔ .paren true ∉ opened := by
  rw [← mem_parens_iff, ← wrapLevel_eq_none_iff, ← h.wrap, Option.map_eq_none_iff]

/-- A parenthesis that is not wrapped is closed without a change of depth. -/
theorem Levels.close_of_false (h : Levels n (false :: ps)) :
    n.close = { n with parenLevel := n.parenLevel - 1 } := by
  apply Nesting.close_of_ne
  intro w hw
  have hwrap := h.wrap
  rw [Option.mem_def.1 hw] at hwrap
  have hle : w.parenLevel ≤ ps.length := wrapLevel_le hwrap.symm
  rw [h.parenLevel, List.length_cons]
  omega

/-- The wrapped parenthesis goes back to the depth before it. -/
theorem Levels.close_of_true (h : Levels n (true :: ps)) :
    ∃ w, n.wrap = some w ∧ n.close = ⟨w.depth, n.parenLevel - 1, none⟩ := by
  obtain ⟨w, hw, hlevel⟩ := Option.map_eq_some_iff.1 h.wrap
  exact ⟨w, hw, Nesting.close_of_eq hw (hlevel.trans h.parenLevel.symm)⟩

theorem Levels.not_mem_of_true (h : Levels n (true :: ps)) : true ∉ ps := by
  have honce := h.once
  rw [List.count_cons_self] at honce
  exact List.count_eq_zero.1 (by omega)

theorem Levels.close (h : Levels n ps) : Levels n.close ps.tail := by
  cases ps with
  | nil =>
      have hnone : n.wrap = none := Option.map_eq_none_iff.1 h.wrap
      rw [Nesting.close_of_ne (by simp [hnone])]
      exact ⟨by rw [h.parenLevel]; rfl, h.wrap, h.once⟩
  | cons wrapped ps =>
      cases wrapped with
      | false =>
          rw [h.close_of_false]
          exact ⟨by rw [h.parenLevel]; rfl, h.wrap, by simpa using h.once⟩
      | true =>
          obtain ⟨w, -, hclose⟩ := h.close_of_true
          rw [hclose]
          refine ⟨by rw [h.parenLevel]; rfl, (wrapLevel_eq_none_iff.2 h.not_mem_of_true).symm, ?_⟩
          exact Nat.le_trans (Nat.le_of_eq (List.count_eq_zero.2 h.not_mem_of_true)) (Nat.zero_le 1)

/-- What one character does to the parentheses. -/
theorem parens_read (wraps : Bool) (opened : List Bracket) (c : Char) :
    parens (Bracket.read wraps opened c)
      = if c = '(' then wraps :: parens opened
        else if c = ')' then (parens opened).tail else parens opened := by
  unfold Bracket.read
  by_cases hbrace : c = '{'
  · subst hbrace
    rfl
  rw [if_neg hbrace]
  by_cases hclose : c = '}'
  · subst hclose
    exact parens_erase_brace opened
  rw [if_neg hclose]
  split
  · rfl
  · split
    · exact parens_eraseP_isParen opened
    · rfl

theorem keptByReading_levels :
    KeptByReading fun n opened _ => Levels n (parens opened) := by
  intro n opened c rest wraps h hwraps
  rw [parens_read, Nesting.read]
  by_cases hbrace : c = '{'
  · subst hbrace
    exact ⟨h.parenLevel, h.wrap, h.once⟩
  rw [if_neg hbrace]
  by_cases hclose : c = '}'
  · subst hclose
    exact ⟨h.parenLevel, h.wrap, h.once⟩
  rw [if_neg hclose]
  split
  · rename_i hparen
    split
    · rename_i hwrapped
      have hnone := List.count_eq_zero.2 fun hmem =>
        (h.wrap_eq_none_iff.1 (hwraps hwrapped hparen)) (mem_parens_iff.1 hmem)
      rw [hwrapped]
      refine ⟨congrArg (· + 1) h.parenLevel, congrArg (some <| · + 1) h.parenLevel, ?_⟩
      exact Nat.le_of_eq (by rw [List.count_cons_self, hnone])
    · rename_i hwrapped
      rw [Bool.not_eq_true] at hwrapped
      rw [hwrapped]
      exact ⟨congrArg (· + 1) h.parenLevel, h.wrap, by simpa using h.once⟩
  · split
    · exact h.close
    · exact h

theorem levels_start : Levels State.start.nesting (parens []) := ⟨rfl, rfl, Nat.zero_le 1⟩

/-! ### Forced breaks -/

/-- The character is one that a line may be broken after, where these brackets are open. -/
def MayBreak (opened : List Bracket) (c : Char) : Prop :=
  c = '{' ∨ c = ';' ∨ c = '(' ∧ .paren true ∉ opened

theorem Meets.forced_iff {Inv : Nesting → List Bracket → List Char → Prop} {t : Strip}
    {done tail rest : List Char} {s : State} (h : Meets l Inv opened t done c tail s rest)
    (hlevels : Levels s.nesting (parens (Bracket.readAll opened done))) :
    t.forced = true ∧ tail = [] ↔ Text.isBlankText rest = false ∧
      MayBreak (Bracket.readAll opened done) c ∧
      l.maxWidth ≤ (l.margin t.level ++ done).length + 1 := by
  have hmay : (c = '{' ∨ c = ';' ∨ c = '(' ∧ s.wrap = none)
      ↔ MayBreak (Bracket.readAll opened done) c :=
    or_congr_right (or_congr_right (and_congr_right fun _ => hlevels.wrap_eq_none_iff))
  have hcolumn : MayBreak (Bracket.readAll opened done) c →
      (l.put s c).1.column = (l.margin t.level ++ done).length + 1 := by
    intro hbreak
    apply h.column
    rintro rfl
    rcases hbreak with hc | hc | hc
    · exact absurd hc (by decide)
    · exact absurd hc (by decide)
    · exact absurd hc.1 (by decide)
  rw [← List.isEmpty_iff, ← Bool.and_eq_true, ← h.forces, forcesBreak_eq_true_iff, hmay]
  refine and_congr_right fun _ => and_congr_right fun hbreak => ?_
  rw [hcolumn hbreak]

/-- Every character of the text that may break its line and stands at the maximal width or beyond,
columns counted with the indentation, has only blanks after it on its line of the output; and a line
of the text is broken only after such a character, and where more than blanks follows. -/
theorem breaks_format (hfeed : '\n' ∉ l.indent.toList) (text : String) :
    let ts := l.strips .start (contentLines text.toList)
    Cuts (contentLines text.toList) ts ∧
      Text.lines (l.format text).toList = ts.map l.line ++ [[]] ∧
      ∀ before t after, ts = before ++ t :: after →
        (∀ done c tail, t.text = done ++ c :: tail →
          MayBreak (Bracket.readAll (openAfter before) done) c →
          l.maxWidth ≤ (l.margin t.level ++ done).length + 1 → Text.isBlankText tail = true) ∧
        (t.forced = true →
          (∃ done c, t.text = done ++ [c] ∧ MayBreak (Bracket.readAll (openAfter before) done) c ∧
            l.maxWidth ≤ (l.margin t.level ++ done).length + 1) ∧
          ∃ next later d tail,
            after = next :: later ∧ next.text = d :: tail ∧ Text.isBlank d = false) := by
  intro ts
  have hcuts := cuts_strips l .start (contentLines text.toList)
  refine ⟨hcuts, lines_format hfeed text, ?_⟩
  intro before t after hsplit
  have hmet : MetOn l _ (openAfter before) t [] :=
    keptByReading_levels.metOn_strips levels_start before t after hsplit
  constructor
  · intro done c tail htext hbreak hwide
    obtain ⟨s, rest, hmeets⟩ := hmet done c tail htext
    rw [List.append_nil] at hmeets
    obtain ⟨-, hlevels⟩ := hmeets.inv
    cases hrest : Text.isBlankText rest with
    | true => exact hmeets.blank hrest
    | false =>
        obtain ⟨-, rfl⟩ := (hmeets.forced_iff hlevels).2 ⟨hrest, hbreak, hwide⟩
        rfl
  · intro hforced
    obtain ⟨⟨start, c, htext⟩, hgoesOn⟩ := hcuts.goesOn before t after hsplit hforced
    obtain ⟨s, rest, hmeets⟩ := hmet start c [] htext
    obtain ⟨-, hlevels⟩ := hmeets.inv
    obtain ⟨-, hbreak, hwide⟩ := (hmeets.forced_iff hlevels).1 ⟨hforced, rfl⟩
    exact ⟨⟨start, c, htext, hbreak, hwide⟩, hgoesOn⟩

/-- A call that is wrapped at its parenthesis: the semicolon after it stands beyond the width too,
and what is left of its line goes below. -/
theorem breaks_format_wrappedCall :
    let l : Layout := ⟨"  ", 4⟩
    let text := "f(a);\nfun(a, (b)); c"
    '\n' ∉ l.indent.toList ∧
      l.strips .start (contentLines text.toList)
        = [⟨0, "f(a);".toList, false⟩, ⟨0, "fun(".toList, true⟩]
          ++ ⟨2, "a, (b));".toList, true⟩ :: [⟨0, "c".toList, false⟩] ∧
      openAfter [⟨0, "f(a);".toList, false⟩, ⟨0, "fun(".toList, true⟩] = [.paren true] ∧
      (∃ done c, "a, (b));".toList = done ++ [c] ∧ MayBreak (Bracket.readAll [.paren true] done) c ∧
        l.maxWidth ≤ (l.margin 2 ++ done).length + 1) := by
  intro l text
  have hfeed : '\n' ∉ l.indent.toList := by decide
  have hstrips : l.strips .start (contentLines text.toList)
      = [⟨0, "f(a);".toList, false⟩, ⟨0, "fun(".toList, true⟩]
        ++ ⟨2, "a, (b));".toList, true⟩ :: [⟨0, "c".toList, false⟩] := by
    decide +kernel
  obtain ⟨-, -, hbreaks⟩ := breaks_format hfeed text
  obtain ⟨-, hcut⟩ := hbreaks _ _ _ hstrips
  exact ⟨hfeed, hstrips, by decide +kernel, (hcut rfl).1⟩

end Layout

end ClassInference
