import ClassInference.Proofs.Layouts.Strips

/-!
# Open brackets

The brackets that are open somewhere in a text, and what the layout keeps of them: a depth, the
level of the parentheses, and the parenthesis that a line was broken after. What holds of the two
at the start, and is kept by every character, holds wherever a character of a strip is met.
-/

namespace ClassInference

namespace Layout

/-- A bracket that is open; a parenthesis is wrapped if a line was broken after it. -/
inductive Bracket where
  | brace
  | paren (wrapped : Bool)
deriving Repr, DecidableEq

namespace Bracket

def isParen : Bracket → Bool
  | brace => false
  | paren _ => true

/-- The open brackets, innermost first, after one more character. A closing bracket closes the
innermost one of its kind, if there is one. -/
def read (wraps : Bool) (opened : List Bracket) (c : Char) : List Bracket :=
  if c = '{' then brace :: opened
  else if c = '}' then opened.erase brace
  else if c = '(' then paren wraps :: opened
  else if c = ')' then opened.eraseP isParen
  else opened

/-- The open brackets after more characters that no line is broken after. -/
def readAll (opened : List Bracket) (cs : List Char) : List Bracket :=
  cs.foldl (read false) opened

end Bracket

/-- The open brackets after a strip. -/
def Strip.read (opened : List Bracket) (t : Strip) : List Bracket :=
  match t.text.getLast? with
  | none => opened
  | some c => Bracket.read t.forced (Bracket.readAll opened t.text.dropLast) c

/-- The open brackets after strips. -/
def openAfter (ts : List Strip) : List Bracket := ts.foldl Strip.read []

/-! ### What the layout keeps of brackets -/

/-- The part of a state that brackets change. -/
structure Nesting where
  depth : Nat
  parenLevel : Nat
  wrap : Option Wrap
deriving Repr, DecidableEq

def State.nesting (s : State) : Nesting := ⟨s.depth, s.parenLevel, s.wrap⟩

/-- A closing parenthesis ends the wrap that was begun at its level. -/
def Nesting.close (n : Nesting) : Nesting :=
  match n.wrap with
  | some w =>
    if w.parenLevel = n.parenLevel then ⟨w.depth, n.parenLevel - 1, none⟩
    else { n with parenLevel := n.parenLevel - 1 }
  | none => { n with parenLevel := n.parenLevel - 1 }

def Nesting.read (wraps : Bool) (n : Nesting) (c : Char) : Nesting :=
  if c = '{' then { n with depth := n.depth + 1 }
  else if c = '}' then { n with depth := n.depth - 1 }
  else if c = '(' then
    if wraps then ⟨n.depth + 2, n.parenLevel + 1, some ⟨n.parenLevel + 1, n.depth⟩⟩
    else { n with parenLevel := n.parenLevel + 1 }
  else if c = ')' then n.close
  else n

variable {l : Layout} {s : State} {t begun : Strip} {c : Char} {cs rest line later : List Char}
  {lines : List (List Char)} {ts : List Strip} {opened : List Bracket} {n : Nesting}
  {endsLine wraps : Bool}

/-- A parenthesis that is closed inside the wrap, or without one. -/
theorem Nesting.close_of_ne (h : ∀ w ∈ n.wrap, w.parenLevel ≠ n.parenLevel) :
    n.close = { n with parenLevel := n.parenLevel - 1 } := by
  rw [close]
  cases hwrap : n.wrap with
  | none => rfl
  | some w => exact if_neg (h w hwrap)

/-- The wrapped parenthesis is closed. -/
theorem Nesting.close_of_eq {w : Wrap} (hwrap : n.wrap = some w)
    (hlevel : w.parenLevel = n.parenLevel) : n.close = ⟨w.depth, n.parenLevel - 1, none⟩ := by
  rw [close, hwrap]
  exact if_pos hlevel

theorem nesting_put (l : Layout) (s : State) (c : Char) : (l.put s c).1.nesting = s.nesting := by
  unfold put
  split <;> rfl

theorem nesting_putCloseParen (l : Layout) (s : State) :
    (l.putCloseParen s).1.nesting = s.nesting.close := by
  rw [← l.nesting_put s ')', putCloseParen]
  generalize (l.put s ')').1 = after
  cases hwrap : after.wrap with
  | none => simp [State.nesting, Nesting.close, hwrap]
  | some w =>
      by_cases hlevel : w.parenLevel = after.parenLevel
      · simp [State.nesting, Nesting.close, hwrap, hlevel]
      · simp [State.nesting, Nesting.close, hwrap, hlevel]

/-- What one character does to the nesting. -/
theorem nesting_step (l : Layout) (s : State) (endsLine : Bool) (c : Char) :
    (l.step s endsLine c).1.nesting = s.nesting.read (l.forcesBreak s endsLine c) c := by
  unfold step Nesting.read
  by_cases hbrace : c = '{'
  · rw [if_pos hbrace, if_pos hbrace, ← l.nesting_put s '{', putOpenBrace]
    dsimp only
    split <;> rfl
  rw [if_neg hbrace, if_neg hbrace]
  by_cases hclose : c = '}'
  · rw [if_pos hclose, if_pos hclose, putCloseBrace, nesting_put]
    rfl
  rw [if_neg hclose, if_neg hclose]
  by_cases hparen : c = '('
  · subst hparen
    have hforces : l.forcesBreak s endsLine '('
        = ((l.put s '(').1.wrap.isNone && l.isWide (l.put s '(').1 endsLine) := by
      rw [wrap_put, Bool.and_comm]
      rfl
    rw [if_pos rfl, if_pos rfl, hforces, ← l.nesting_put s '(']
    change (if (l.put s '(').1.wrap.isNone && l.isWide (l.put s '(').1 endsLine then _ else _ :
      State × List Char).1.nesting = _
    split <;> rfl
  rw [if_neg hparen, if_neg hparen]
  by_cases hend : c = ')'
  · rw [if_pos hend, if_pos hend, nesting_putCloseParen]
  rw [if_neg hend, if_neg hend]
  by_cases hsemicolon : c = ';'
  · rw [if_pos hsemicolon, ← l.nesting_put s ';', putSemicolon]
    split <;> rfl
  rw [if_neg hsemicolon]
  split
  · rfl
  · exact l.nesting_put s c

/-! ### What every character keeps -/

/-- A relation between the nesting, the open brackets and the text still to come is kept by every
character, where a parenthesis is wrapped only if no other one is. -/
def KeptByReading (Inv : Nesting → List Bracket → List Char → Prop) : Prop :=
  ∀ n opened c rest wraps, Inv n opened (c :: rest) → (wraps = true → c = '(' → n.wrap = none) →
    Inv (n.read wraps c) (Bracket.read wraps opened c) rest

/-- What holds where two lists are split holds in the first one and in the second one. -/
theorem forall_split_append_iff {α : Type} {xs ys : List α} {P : List α → α → Prop} :
    (∀ done y rest, xs ++ ys = done ++ y :: rest → P done y) ↔
      (∀ done y rest, xs = done ++ y :: rest → P done y) ∧
        ∀ done y rest, ys = done ++ y :: rest → P (xs ++ done) y := by
  constructor
  · intro h
    refine ⟨fun done y rest hsplit => h done y (rest ++ ys) ?_, fun done y rest hsplit => ?_⟩
    · rw [hsplit, List.append_assoc, List.cons_append]
    · apply h (xs ++ done) y rest
      rw [hsplit, List.append_assoc]
  · rintro ⟨hfirst, hsecond⟩ done y rest hsplit
    rcases List.append_eq_append_iff.1 hsplit with ⟨more, rfl, hys⟩ | ⟨more, hxs, hrest⟩
    · exact hsecond more y rest hys
    · cases more with
      | nil =>
          rw [List.append_nil] at hxs
          have hlast := hsecond [] y rest hrest.symm
          rwa [List.append_nil, hxs] at hlast
      | cons x more =>
          obtain ⟨rfl, -⟩ := List.cons.inj hrest
          exact hfirst done y more hxs

/-- A character of a strip, written after `done` and before `tail` on the strip, is met in a state,
with the rest of its line after it. `opened` are the brackets open before the strip. -/
structure Meets (l : Layout) (Inv : Nesting → List Bracket → List Char → Prop)
    (opened : List Bracket) (t : Strip) (done : List Char) (c : Char) (tail : List Char)
    (s : State) (rest : List Char) : Prop where
  inv : ∃ later, Inv s.nesting (Bracket.readAll opened done) (c :: later)
  column : c ≠ '}' → (l.put s c).1.column = (l.margin t.level ++ done).length + 1
  forces : l.forcesBreak s (Text.isBlankText rest) c = (t.forced && tail.isEmpty)
  blank : Text.isBlankText rest = true → Text.isBlankText tail = true
  level : done = [] → t.level = if c = '}' then s.depth - 1 else s.depth

/-- What holds where a list is split holds at its last item and earlier. -/
theorem forall_split_concat_iff {α : Type} {x : α} {xs : List α}
    {P : List α → α → List α → Prop} :
    (∀ done y rest, xs ++ [x] = done ++ y :: rest → P done y rest) ↔
      (∀ done y rest, xs = done ++ y :: rest → P done y (rest ++ [x])) ∧ P xs x [] := by
  constructor
  · intro h
    refine ⟨fun done y rest hsplit => ?_, h xs x [] rfl⟩
    apply h done y (rest ++ [x])
    rw [hsplit, List.append_assoc, List.cons_append]
  · rintro ⟨hearlier, hlast⟩ done y rest hsplit
    rcases List.eq_nil_or_concat rest with rfl | ⟨start, z, rfl⟩
    · obtain ⟨rfl, hx⟩ := List.append_inj' hsplit rfl
      obtain ⟨rfl, -⟩ := List.cons.inj hx
      exact hlast
    · rw [List.concat_eq_append, ← List.cons_append, ← List.append_assoc] at hsplit
      obtain ⟨rfl, hz⟩ := List.append_inj' hsplit rfl
      obtain ⟨rfl, -⟩ := List.cons.inj hz
      rw [List.concat_eq_append]
      exact hearlier done y start rfl

theorem Bracket.readAll_concat (opened : List Bracket) (cs : List Char) (c : Char) :
    readAll opened (cs ++ [c]) = read false (readAll opened cs) c := by
  rw [readAll, List.foldl_append]
  rfl

theorem Strip.read_of_text {start : List Char} (htext : t.text = start ++ [c]) :
    t.read opened = Bracket.read t.forced (Bracket.readAll opened start) c := by
  rw [Strip.read, htext, List.getLast?_concat, List.dropLast_concat]

theorem Strip.read_of_not_forced (h : t.forced = false) :
    t.read opened = Bracket.readAll opened t.text := by
  rcases List.eq_nil_or_concat t.text with htext | ⟨start, c, htext⟩
  · rw [Strip.read, htext]
    rfl
  · rw [List.concat_eq_append] at htext
    rw [Strip.read_of_text htext, htext, Bracket.readAll_concat, h]

section Kept

variable {Inv : Nesting → List Bracket → List Char → Prop} (hInv : KeptByReading Inv)

include hInv

/-- A character that is no bracket changes nothing. -/
theorem KeptByReading.skip (hc : Text.isBlank c = true) (h : Inv n opened (c :: cs)) :
    Inv n opened cs := by
  have hnext := hInv n opened c cs false h (fun hwraps => Bool.noConfusion hwraps)
  have hread : n.read false c = n := by
    rw [Nesting.read, if_neg (ne_of_isBlank hc (by decide)), if_neg (ne_of_isBlank hc (by decide)),
      if_neg (ne_of_isBlank hc (by decide)), if_neg (ne_of_isBlank hc (by decide))]
  have hopened : Bracket.read false opened c = opened := by
    rw [Bracket.read, if_neg (ne_of_isBlank hc (by decide)),
      if_neg (ne_of_isBlank hc (by decide)), if_neg (ne_of_isBlank hc (by decide)),
      if_neg (ne_of_isBlank hc (by decide))]
  rwa [hread, hopened] at hnext

theorem KeptByReading.skipAll (hcs : Text.isBlankText cs = true) (h : Inv n opened (cs ++ later)) :
    Inv n opened later := by
  induction cs with
  | nil => exact h
  | cons c cs ih =>
      rw [Text.isBlankText, List.all_cons, Bool.and_eq_true] at hcs
      exact ih hcs.2 (hInv.skip hcs.1 h)

theorem KeptByReading.step (l : Layout) (endsLine : Bool) (h : Inv s.nesting opened (c :: cs)) :
    Inv (l.step s endsLine c).1.nesting (Bracket.read (l.forcesBreak s endsLine c) opened c) cs := by
  rw [nesting_step]
  apply hInv _ _ _ _ _ h
  rintro hforces rfl
  obtain ⟨-, hbreak, -⟩ := forcesBreak_eq_true_iff.1 hforces
  rcases hbreak with hc | hc | hc
  · exact absurd hc (by decide)
  · exact absurd hc (by decide)
  · exact hc.2

/-! ### The strips of a line -/

/-- What is kept holds after the strips of a line. -/
theorem KeptByReading.lineStrips (h : Begun l s begun)
    (hinv : Inv s.nesting (Bracket.readAll opened begun.text) (cs ++ later)) :
    Inv (l.steps s cs).1.nesting ((l.lineStrips s begun cs).foldl Strip.read opened) later := by
  induction cs generalizing s begun opened with
  | nil =>
      rw [Layout.lineStrips, List.foldl_cons, Strip.read_of_not_forced h.forced]
      exact hinv
  | cons c cs ih =>
      rw [Layout.lineStrips, steps]
      split
      · rename_i hdropped
        rw [step_of_dropped hdropped]
        rw [Bool.and_eq_true] at hdropped
        exact ih h (hInv.skip hdropped.1 hinv)
      · rename_i hkept
        rw [Bool.not_eq_true] at hkept
        have hnext := hInv.step l (Text.isBlankText cs) hinv
        split
        · rename_i hforces
          have htext : (begun.push s c).cut.text = begun.text ++ [c] := h.text_push c
          rw [List.foldl_cons, Strip.read_of_text htext]
          rw [hforces] at hnext
          exact ih (begun_empty l (step_of_forces hforces).1) hnext
        · rename_i hforces
          rw [Bool.not_eq_true] at hforces
          rw [hforces] at hnext
          apply ih (h.push hkept hforces)
          rw [h.text_push, Bracket.readAll_concat]
          exact hnext

omit hInv in
/-- The next character is met on the strip that it is written on. -/
theorem meets_push (h : Begun l s begun) (hlevel : t.level = (begun.push s c).level)
    (hinv : Inv s.nesting (Bracket.readAll opened begun.text) (c :: later)) {tail : List Char}
    (hforces : l.forcesBreak s (Text.isBlankText rest) c = (t.forced && tail.isEmpty))
    (hblank : Text.isBlankText rest = true → Text.isBlankText tail = true) :
    Meets l Inv opened t begun.text c tail s rest where
  inv := ⟨later, hinv⟩
  column := by
    intro hc
    rw [(l.inside_put s c).column, hlevel, Strip.push]
    split
    · rename_i hpending
      rw [h.pending hpending]
      simp [length_margin, Strip.empty]
    · rename_i hpending
      rw [(h.inside (by simpa using hpending)).column]
      rfl
  forces := hforces
  blank := hblank
  level := by
    intro hnone
    cases hpending : s.pending with
    | true => rw [hlevel, Strip.push, if_pos hpending]
    | false => exact absurd hnone (h.nonempty hpending)

/-- Every character of a strip is met; `cs` comes after the strip on the same line. -/
def MetOn (l : Layout) (Inv : Nesting → List Bracket → List Char → Prop) (opened : List Bracket)
    (t : Strip) (cs : List Char) : Prop :=
  ∀ done c tail, t.text = done ++ c :: tail →
    ∃ s rest, Meets l Inv opened t done c (tail ++ cs) s rest

omit hInv in
theorem metOn_empty (l : Layout) (opened : List Bracket) (cs : List Char) :
    MetOn l Inv opened .empty cs := by
  intro done c tail hsplit
  simp [Strip.empty] at hsplit

omit hInv in
/-- The strip with one more character, and with less of the line after it. -/
theorem MetOn.push (h : Begun l s begun) (hmet : MetOn l Inv opened begun (c :: cs))
    (hinv : Inv s.nesting (Bracket.readAll opened begun.text) (c :: later))
    (ht : t.level = (begun.push s c).level ∧ t.text = begun.text ++ [c])
    {more : List Char} (hmore : more <+: cs)
    (hforces : l.forcesBreak s (Text.isBlankText cs) c = (t.forced && more.isEmpty)) :
    MetOn l Inv opened t more := by
  have hblank : ∀ start : List Char, Text.isBlankText (start ++ cs) = true →
      Text.isBlankText (start ++ more) = true := by
    intro start hstart
    obtain ⟨end_, rfl⟩ := hmore
    rw [Text.isBlankText, List.all_append, List.all_append] at hstart
    rw [Text.isBlankText, List.all_append]
    simp only [Bool.and_eq_true] at hstart ⊢
    exact ⟨hstart.1, hstart.2.1⟩
  rw [MetOn, ht.2, forall_split_concat_iff]
  constructor
  · intro done x tail hsplit
    obtain ⟨s', rest, hmeets⟩ := hmet done x tail hsplit
    have hlevel : t.level = begun.level := by
      rw [ht.1, Strip.push, if_neg]
      intro hpending
      rw [h.pending hpending] at hsplit
      simp [Strip.empty] at hsplit
    refine ⟨s', rest, hmeets.inv, ?_, ?_, ?_, ?_⟩
    · rw [hlevel]
      exact hmeets.column
    · rw [hmeets.forces, h.forced]
      simp
    · intro hrest
      have htail := hblank (tail ++ [c]) (by simpa using hmeets.blank hrest)
      exact htail
    · rw [hlevel]
      exact hmeets.level
  · exact ⟨s, cs, meets_push h ht.1 hinv hforces (hblank [])⟩

/-- Every character of the strips of a line is met. -/
theorem KeptByReading.metOn_lineStrips (h : Begun l s begun)
    (hinv : Inv s.nesting (Bracket.readAll opened begun.text) (cs ++ later))
    (hmet : MetOn l Inv opened begun cs) :
    ∀ before t after, l.lineStrips s begun cs = before ++ t :: after →
      MetOn l Inv (before.foldl Strip.read opened) t [] := by
  induction cs generalizing s begun opened with
  | nil =>
      rw [Layout.lineStrips, forall_split_cons_iff]
      exact ⟨hmet, fun done t rest hsplit => by simp at hsplit⟩
  | cons c cs ih =>
      rw [Layout.lineStrips]
      split
      · rename_i hdropped
        rw [step_of_dropped hdropped]
        rw [Bool.and_eq_true] at hdropped
        apply ih h (hInv.skip hdropped.1 hinv)
        intro done x tail hsplit
        rw [h.text_of_broken hdropped.2] at hsplit
        simp at hsplit
      · rename_i hkept
        rw [Bool.not_eq_true] at hkept
        have hnext := hInv.step l (Text.isBlankText cs) hinv
        split
        · rename_i hforces
          have htext : (begun.push s c).cut.text = begun.text ++ [c] := h.text_push c
          rw [forall_split_cons_iff]
          have hcut : MetOn l Inv opened (begun.push s c).cut [] := by
            apply hmet.push (t := (begun.push s c).cut) h hinv ⟨rfl, htext⟩ List.nil_prefix
            rw [hforces]
            rfl
          refine ⟨hcut, fun before t after hsplit => ?_⟩
          rw [hforces] at hnext
          rw [List.foldl_cons, Strip.read_of_text htext]
          exact ih (begun_empty l (step_of_forces hforces).1) hnext (metOn_empty l _ cs)
            before t after hsplit
        · rename_i hforces
          rw [Bool.not_eq_true] at hforces
          rw [hforces] at hnext
          have hbegun := h.push hkept hforces
          apply ih hbegun
          · rw [h.text_push, Bracket.readAll_concat]
            exact hnext
          · apply hmet.push h hinv ⟨rfl, h.text_push c⟩ List.prefix_rfl
            rw [hforces, hbegun.forced]
            rfl

/-! ### The strips of a text -/

theorem KeptByReading.formatLine (hinv : Inv s.nesting opened (line ++ later)) :
    Inv (l.formatLine s line).1.nesting
      ((if Text.isBlankText line then [.empty] else l.lineStrips s.atLineStart .empty line).foldl
        Strip.read opened) later := by
  rw [Layout.formatLine]
  split
  · rename_i hblank
    exact hInv.skipAll hblank hinv
  · exact hInv.lineStrips (begun_empty l rfl) hinv

/-- What is kept holds after the strips of lines. -/
theorem KeptByReading.strips (hinv : Inv s.nesting opened lines.flatten) :
    Inv (l.formatLines s lines).1.nesting ((l.strips s lines).foldl Strip.read opened) [] := by
  induction lines generalizing s opened with
  | nil => exact hinv
  | cons line lines ih =>
      rw [Layout.strips, List.foldl_append]
      exact ih (hInv.formatLine hinv)

/-- Every character of the strips of lines is met. -/
theorem KeptByReading.metOn_strips (hinv : Inv s.nesting opened lines.flatten) :
    ∀ before t after, l.strips s lines = before ++ t :: after →
      MetOn l Inv (before.foldl Strip.read opened) t [] := by
  induction lines generalizing s opened with
  | nil =>
      intro before t after hsplit
      simp [Layout.strips] at hsplit
  | cons line lines ih =>
      rw [Layout.strips, forall_split_append_iff]
      constructor
      · split
        · rw [forall_split_cons_iff]
          exact ⟨metOn_empty l opened [], fun before t after hsplit => by simp at hsplit⟩
        · exact hInv.metOn_lineStrips (begun_empty l rfl) hinv (metOn_empty l _ line)
      · intro before t after hsplit
        rw [List.foldl_append]
        exact ih (hInv.formatLine hinv) before t after hsplit

end Kept

end Layout

end ClassInference
