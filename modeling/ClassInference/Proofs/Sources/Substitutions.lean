import ClassInference.Proofs.Sources.Templates

/-!
# Substitution at once

Filling a template reads it from left to right. What it gives can be said place by place and without
an order: bound slots do not overlap, so that each character of the template is the first one of a
bound slot, a later one of a bound slot, or in none, and stands for the value, for nothing, or for
itself. No place is affected by what another one stands for.
-/

namespace ClassInference

namespace Template

variable {vars : List (String × String)} {cs rest after name name' : List Char}
  {value value' : String} {i j : Nat}

/-! ### Bound slots -/

theorem slot?_eq_some_iff :
    slot? rest = some (name, after) ↔
      rest = name ++ '}' :: after ∧ name ≠ [] ∧ ∀ c ∈ name, isSlotChar c = true := by
  constructor
  · intro h
    unfold slot? at h
    split at h
    · rename_i first more after' htake hdrop
      rw [Option.some.injEq, Prod.mk.injEq] at h
      obtain ⟨rfl, rfl⟩ := h
      refine ⟨?_, List.cons_ne_nil _ _, ?_⟩
      · rw [← htake, ← hdrop, List.takeWhile_append_dropWhile]
      · rw [← htake]
        exact fun c hc => List.all_eq_true.1 List.all_takeWhile c hc
    · contradiction
  · rintro ⟨rfl, hname, hslot⟩
    exact slot?_append hname hslot after

theorem length_slot (name : List Char) : ('{' :: (name ++ ['}'])).length = name.length + 2 := by
  simp

/-- The slot `name` stands at the place `i` of the template: a word between braces. Of the values
that are bound to the word, it gets the first one. -/
structure BoundAt (vars : List (String × String)) (cs : List Char) (i : Nat) (name : List Char)
    (value : String) : Prop where
  ne_nil : name ≠ []
  word : ∀ c ∈ name, isSlotChar c = true
  spelled : '{' :: (name ++ ['}']) <+: cs.drop i
  bound : vars.lookup (String.ofList name) = some value

theorem boundAt_zero_iff :
    BoundAt vars ('{' :: rest) 0 name value ↔
      ∃ after, slot? rest = some (name, after) ∧ vars.lookup (String.ofList name) = some value := by
  simp only [slot?_eq_some_iff]
  constructor
  · rintro ⟨hname, hword, ⟨after, hafter⟩, hbound⟩
    refine ⟨after, ⟨?_, hname, hword⟩, hbound⟩
    simpa using (List.cons.inj hafter).2.symm
  · rintro ⟨after, ⟨rfl, hname, hword⟩, hbound⟩
    exact ⟨hname, hword, ⟨after, by simp⟩, hbound⟩

/-- Slots are found alike whatever stands before. -/
theorem boundAt_append_iff (before : List Char) :
    BoundAt vars (before ++ cs) (before.length + i) name value ↔ BoundAt vars cs i name value := by
  have hdrop : (before ++ cs).drop (before.length + i) = cs.drop i := by
    rw [← List.drop_drop, List.drop_left]
  constructor
  · rintro ⟨hname, hword, hspelled, hbound⟩
    exact ⟨hname, hword, hdrop ▸ hspelled, hbound⟩
  · rintro ⟨hname, hword, hspelled, hbound⟩
    exact ⟨hname, hword, hdrop ▸ hspelled, hbound⟩

namespace BoundAt

variable (h : BoundAt vars cs i name value)

include h

/-- The characters of a slot, where they stand in the template. -/
theorem getElem?_add {k : Nat} (hk : k < name.length + 2) :
    cs[i + k]? = ('{' :: (name ++ ['}']))[k]? := by
  obtain ⟨after, hafter⟩ := h.spelled
  rw [← List.getElem?_drop, ← hafter]
  exact List.getElem?_append_left (length_slot name ▸ hk)

theorem getElem?_zero : cs[i]? = some '{' := h.getElem?_add (Nat.succ_pos _)

theorem exists_drop : ∃ after, cs.drop i = '{' :: (name ++ '}' :: after) := by
  obtain ⟨after, hafter⟩ := h.spelled
  exact ⟨after, by simp [← hafter]⟩

/-- One slot stands at a place. -/
theorem unique (h' : BoundAt vars cs i name' value') : name = name' ∧ value = value' := by
  obtain ⟨after, hafter⟩ := h.exists_drop
  obtain ⟨after', hafter'⟩ := h'.exists_drop
  have hrest : name ++ '}' :: after = name' ++ '}' :: after' :=
    (List.cons.inj (hafter.symm.trans hafter')).2
  have hslot : some (name, after) = some (name', after') := by
    rw [← slot?_append h.ne_nil h.word after, hrest, slot?_append h'.ne_nil h'.word after']
  obtain ⟨rfl, -⟩ := Prod.mk.inj (Option.some.inj hslot)
  exact ⟨rfl, Option.some.inj (h.bound.symm.trans h'.bound)⟩

/-- A slot begins after the end of every earlier one, as there is no opening brace within a slot. -/
theorem add_le_of_lt (h' : BoundAt vars cs j name' value') (hij : i < j) :
    i + (name.length + 2) ≤ j := by
  rw [← Nat.not_lt]
  intro hlt
  obtain ⟨k, rfl⟩ := Nat.exists_eq_add_of_lt hij
  have hbrace : (name ++ ['}'])[k]? = some '{' := by
    rw [← h'.getElem?_zero, Nat.add_assoc, h.getElem?_add (by omega), List.getElem?_cons_succ]
  rcases List.mem_append.1 (List.mem_of_getElem? hbrace) with hword | hclose
  · exact absurd (h.word _ hword) (by decide)
  · exact absurd (List.mem_singleton.1 hclose) (by decide)

end BoundAt

/-! ### Places of a template -/

/-- What the character at the place `i` stands for. -/
inductive StandsFor (vars : List (String × String)) (cs : List Char) (i : Nat) :
    List Char → Prop where
  | value {name : List Char} {value : String} (h : BoundAt vars cs i name value) :
      StandsFor vars cs i value.toList
  | within {j : Nat} {name : List Char} {value : String} (h : BoundAt vars cs j name value)
      (hbegun : j < i) (hopen : i < j + (name.length + 2)) : StandsFor vars cs i []
  | plain {c : Char} (hc : cs[i]? = some c)
      (hout : ∀ j name value, BoundAt vars cs j name value →
        i < j ∨ j + (name.length + 2) ≤ i) : StandsFor vars cs i [c]

theorem StandsFor.unique {part part' : List Char} (h : StandsFor vars cs i part)
    (h' : StandsFor vars cs i part') : part = part' := by
  cases h with
  | value h =>
      cases h' with
      | value h' => rw [(h.unique h').2]
      | within h' hbegun hopen =>
          have := h'.add_le_of_lt h hbegun
          omega
      | plain _ hout =>
          have := hout _ _ _ h
          omega
  | within h hbegun hopen =>
      cases h' with
      | value h' =>
          have := h.add_le_of_lt h' hbegun
          omega
      | within => rfl
      | plain _ hout =>
          have := hout _ _ _ h
          omega
  | plain hc hout =>
      cases h' with
      | value h' =>
          have := hout _ _ _ h'
          omega
      | within h' =>
          have := hout _ _ _ h'
          omega
      | plain hc' => rw [Option.some.inj (hc.symm.trans hc')]

/-- A place stands for the same behind a text that no slot leads out of. -/
theorem StandsFor.append {before part : List Char}
    (hends : ∀ j name value, BoundAt vars (before ++ cs) j name value → j < before.length →
      j + (name.length + 2) ≤ before.length)
    (h : StandsFor vars cs i part) : StandsFor vars (before ++ cs) (before.length + i) part := by
  cases h with
  | value h => exact .value ((boundAt_append_iff before).2 h)
  | within h hbegun hopen =>
      exact .within ((boundAt_append_iff before).2 h) (by omega) (by omega)
  | plain hc hout =>
      apply StandsFor.plain
      · rw [List.getElem?_append_right (Nat.le_add_right _ _), Nat.add_sub_cancel_left, hc]
      · intro j name value h
        by_cases hj : j < before.length
        · have := hends j name value h hj
          omega
        · obtain ⟨k, rfl⟩ := Nat.exists_eq_add_of_le (Nat.le_of_not_lt hj)
          have := hout k name value ((boundAt_append_iff before).1 h)
          omega

/-- The text is the template with every character replaced by what it stands for. -/
def Substituted (vars : List (String × String)) (cs text : List Char) : Prop :=
  ∃ parts : List (List Char), parts.length = cs.length ∧
    (∀ i part, parts[i]? = some part → StandsFor vars cs i part) ∧ parts.flatten = text

theorem Substituted.unique {text text' : List Char} (h : Substituted vars cs text)
    (h' : Substituted vars cs text') : text = text' := by
  obtain ⟨parts, hlength, hparts, rfl⟩ := h
  obtain ⟨parts', hlength', hparts', rfl⟩ := h'
  congr 1
  apply List.ext_getElem (hlength.trans hlength'.symm)
  intro i hi hi'
  exact (hparts i _ (List.getElem?_eq_getElem hi)).unique
    (hparts' i _ (List.getElem?_eq_getElem hi'))

/-- A text that no slot leads out of is substituted apart from what follows it. -/
theorem Substituted.append {block text : List Char} {parts : List (List Char)}
    (hlength : parts.length = block.length)
    (hparts : ∀ i part, parts[i]? = some part → StandsFor vars (block ++ cs) i part)
    (hends : ∀ j name value, BoundAt vars (block ++ cs) j name value → j < block.length →
      j + (name.length + 2) ≤ block.length)
    (h : Substituted vars cs text) : Substituted vars (block ++ cs) (parts.flatten ++ text) := by
  obtain ⟨more, hmore, hstands, rfl⟩ := h
  refine ⟨parts ++ more, by simp [hlength, hmore], ?_, List.flatten_append⟩
  intro i part hpart
  rw [List.getElem?_append] at hpart
  split at hpart
  · exact hparts i part hpart
  · rename_i hi
    obtain ⟨k, rfl⟩ := Nat.exists_eq_add_of_le (Nat.le_of_not_lt hi)
    rw [Nat.add_sub_cancel_left] at hpart
    rw [hlength]
    exact (hstands k part hpart).append hends

/-- A bound slot stands for its value, all of it at its first character. -/
theorem Substituted.slot {text : List Char}
    (h : BoundAt vars ('{' :: (name ++ ['}']) ++ after) 0 name value)
    (hafter : Substituted vars after text) :
    Substituted vars ('{' :: (name ++ ['}']) ++ after) (value.toList ++ text) := by
  have hlength := length_slot name
  have hparts : (value.toList :: List.replicate (name.length + 1) []).flatten = value.toList := by
    simp
  rw [← hparts]
  apply hafter.append
  · simp
  · intro i part hpart
    cases i with
    | zero =>
        rw [List.getElem?_cons_zero, Option.some.injEq] at hpart
        rw [← hpart]
        exact .value h
    | succ i =>
        rw [List.getElem?_cons_succ, List.getElem?_replicate] at hpart
        split at hpart
        · rw [← Option.some.inj hpart]
          exact .within h (Nat.succ_pos i) (by omega)
        · contradiction
  · intro j name' value' h' hj
    rcases Nat.eq_zero_or_pos j with rfl | hpos
    · obtain rfl := (h.unique h').1
      omega
    · have := h.add_le_of_lt h' hpos
      omega

/-- A character with which no bound slot begins stands for itself, if no slot comes before it. -/
theorem Substituted.cons {c : Char} {text : List Char}
    (hnone : ∀ name value, ¬ BoundAt vars (c :: rest) 0 name value)
    (hrest : Substituted vars rest text) : Substituted vars (c :: rest) (c :: text) := by
  have hlength : [[c]].length = [c].length := rfl
  apply Substituted.append hlength _ _ hrest
  · intro i part hpart
    cases i with
    | zero =>
        rw [List.getElem?_cons_zero, Option.some.injEq] at hpart
        rw [← hpart]
        refine .plain rfl fun j name value h => ?_
        rcases Nat.eq_zero_or_pos j with rfl | hpos
        · exact absurd h (hnone name value)
        · exact .inl hpos
    | succ i => simp at hpart
  · intro j name value h hj
    rw [List.length_singleton, Nat.lt_one_iff] at hj
    subst hj
    exact absurd h (hnone name value)

/-! ### Reading from left to right -/

/-- The template with its bound slots filled. -/
def filled (vars : List (String × String)) (cs : List Char) : List Char :=
  (pieces cs).flatMap (·.fill vars)

/-- Text without an opening brace is copied. -/
theorem filled_append (vars : List (String × String)) {before : List Char}
    (hbefore : '{' ∉ before) (rest : List Char) :
    filled vars (before ++ rest) = before ++ filled vars rest := by
  rw [filled, pieces_append hbefore, List.flatMap_append, flatMap_fill_chars, filled]

theorem filled_slot (vars : List (String × String)) (hname : name ≠ [])
    (hword : ∀ c ∈ name, isSlotChar c = true) (after : List Char) :
    filled vars ('{' :: (name ++ '}' :: after))
      = (vars.lookup (String.ofList name)).elim ('{' :: (name ++ ['}'])) String.toList
        ++ filled vars after := by
  rw [filled, pieces_slot hname hword, List.flatMap_cons, Piece.fill]
  cases vars.lookup (String.ofList name) <;> rfl

/-- Where no bound slot begins, one character is copied, and reading goes on right after it, also
behind the opening brace of a slot without a value. -/
theorem filled_cons {c : Char} (hnone : ∀ name value, ¬ BoundAt vars (c :: rest) 0 name value) :
    filled vars (c :: rest) = c :: filled vars rest := by
  by_cases hc : c = '{'
  · subst hc
    cases hslot : slot? rest with
    | none =>
        have hpieces : pieces ('{' :: rest) = .char '{' :: pieces rest := by
          rw [pieces, if_pos rfl]
          split
          · simp_all
          · rfl
        rw [filled, hpieces]
        rfl
    | some found =>
        obtain ⟨name, after⟩ := found
        obtain ⟨rfl, hname, hword⟩ := slot?_eq_some_iff.1 hslot
        have hunbound : vars.lookup (String.ofList name) = none := by
          rw [Option.eq_none_iff_forall_ne_some]
          intro value hbound
          exact hnone name value (boundAt_zero_iff.2 ⟨after, hslot, hbound⟩)
        have hopen : '{' ∉ name ++ ['}'] := by
          intro hmem
          rcases List.mem_append.1 hmem with hmem | hmem
          · exact absurd (hword _ hmem) (by decide)
          · exact absurd (List.mem_singleton.1 hmem) (by decide)
        have hcopied := filled_append vars hopen after
        rw [List.append_assoc, List.singleton_append] at hcopied
        rw [filled_slot vars hname hword, hunbound, hcopied]
        rfl
  · rw [filled, pieces_char hc]
    rfl

/-- Reading a template from left to right replaces every character by what it stands for. -/
theorem substituted_filled (vars : List (String × String)) (cs : List Char) :
    Substituted vars cs (filled vars cs) := by
  induction hn : cs.length using Nat.strongRecOn generalizing cs with
  | ind n ih =>
      cases cs with
      | nil => exact ⟨[], rfl, by simp, by simp [filled, pieces]⟩
      | cons c rest =>
          by_cases hslot : ∃ name value, BoundAt vars (c :: rest) 0 name value
          · -- reading goes on behind the slot
            obtain ⟨name, value, h⟩ := hslot
            obtain ⟨after, hafter⟩ := h.exists_drop
            have hlt : after.length < n := by
              rw [← hn, ← List.drop_zero (l := c :: rest), hafter]
              simp
              omega
            have hread := filled_slot vars h.ne_nil h.word after
            have hblock : c :: rest = '{' :: (name ++ ['}']) ++ after := by simpa using hafter
            rw [h.bound, Option.elim_some, ← hafter, List.drop_zero] at hread
            rw [hread]
            rw [hblock] at h ⊢
            exact (ih after.length hlt after rfl).slot h
          · have hnone : ∀ name value, ¬ BoundAt vars (c :: rest) 0 name value :=
              fun name value h => hslot ⟨name, value, h⟩
            have hlt : rest.length < n := by
              rw [← hn]
              exact Nat.lt_succ_self _
            rw [filled_cons hnone]
            exact (ih rest.length hlt rest rfl).cons hnone

/-- Filling a template is substituting all its bound slots at once: the one text in which every
character of the template is replaced by what it stands for. -/
theorem eq_fill_iff_substituted (template text : String) (vars : List (String × String)) :
    text = fill template vars ↔ Substituted vars template.toList text.toList := by
  have hfill : (fill template vars).toList = filled vars template.toList := String.toList_ofList
  constructor
  · rintro rfl
    rw [hfill]
    exact substituted_filled vars template.toList
  · intro h
    apply String.toList_inj.1
    rw [hfill]
    exact h.unique (substituted_filled vars template.toList)

/-- Braces in a value stay, and so do those around a slot and those of a slot without a value. -/
example : fill "\x7b\x7ba\x7d\x7d \x7bb\x7d \x7b-\x7ba\x7d"
      [("a", "\x7bc\x7d"), ("c", "x"), ("a", "y")]
    = "\x7b\x7bc\x7d\x7d \x7bb\x7d \x7b-\x7bc\x7d" := by
  decide +kernel

end Template

end ClassInference
