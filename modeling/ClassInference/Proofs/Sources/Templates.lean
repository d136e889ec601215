import ClassInference.Template

/-!
# Filled templates

Text without a brace is copied, and a slot becomes the value that is bound to its name. So a
template with one slot puts the value between the text before the slot and the text after it.
-/

namespace ClassInference

namespace Template

variable {name after before rest : List Char} {vars : List (String × String)}

theorem pieces_char {c : Char} (hc : c ≠ '{') (rest : List Char) :
    pieces (c :: rest) = .char c :: pieces rest := by
  rw [pieces, if_neg hc]

/-- Text without an opening brace is copied. -/
theorem pieces_append (hbefore : '{' ∉ before) (rest : List Char) :
    pieces (before ++ rest) = before.map .char ++ pieces rest := by
  induction before with
  | nil => rfl
  | cons c before ih =>
      rw [List.mem_cons, not_or] at hbefore
      rw [List.cons_append, pieces_char (Ne.symm hbefore.1), ih hbefore.2]
      rfl

theorem slot?_append (hname : name ≠ []) (hslot : ∀ c ∈ name, isSlotChar c = true)
    (after : List Char) : slot? (name ++ '}' :: after) = some (name, after) := by
  have htake : (name ++ '}' :: after).takeWhile isSlotChar = name := by
    rw [List.takeWhile_append_of_pos hslot, List.takeWhile_cons_of_neg (by decide),
      List.append_nil]
  have hdrop : (name ++ '}' :: after).dropWhile isSlotChar = '}' :: after := by
    rw [List.dropWhile_append_of_pos hslot, List.dropWhile_cons_of_neg (by decide)]
  rw [slot?, htake, hdrop]
  cases name with
  | nil => exact absurd rfl hname
  | cons c cs => rfl

theorem pieces_slot (hname : name ≠ []) (hslot : ∀ c ∈ name, isSlotChar c = true)
    (after : List Char) :
    pieces ('{' :: (name ++ '}' :: after)) = .slot name :: pieces after := by
  rw [pieces, if_pos rfl]
  split
  · rename_i name' after' h
    rw [slot?_append hname hslot after, Option.some.injEq, Prod.mk.injEq] at h
    obtain ⟨rfl, rfl⟩ := h
    rfl
  · rename_i h
    rw [slot?_append hname hslot after] at h
    contradiction

theorem flatMap_fill_chars (cs : List Char) (vars : List (String × String)) :
    (cs.map Piece.char).flatMap (·.fill vars) = cs := by
  rw [List.flatMap_map]
  exact List.flatMap_singleton' cs

/-- A template with one slot puts the value between what stands before and after the slot. -/
theorem fill_of_slot {template name value : String} {before after : List Char}
    (htemplate : template.toList = before ++ '{' :: (name.toList ++ '}' :: after))
    (hbefore : '{' ∉ before) (hafter : '{' ∉ after) (hname : name.toList ≠ [])
    (hslot : name.toList.all isSlotChar = true) :
    (fill template [(name, value)]).toList = before ++ value.toList ++ after := by
  have hpieces : pieces template.toList
      = before.map .char ++ .slot name.toList :: (after.map .char ++ pieces []) := by
    rw [htemplate, pieces_append hbefore, pieces_slot hname (List.all_eq_true.1 hslot),
      ← pieces_append hafter, List.append_nil]
  rw [fill, String.toList_ofList, hpieces, List.flatMap_append, List.flatMap_cons,
    List.flatMap_append, flatMap_fill_chars, flatMap_fill_chars]
  simp [Piece.fill, pieces]

end Template

end ClassInference
