import ClassInference.Source
import ClassInference.Text.Replace

/-!
# String literals

The body of a literal is read by undoing its escapes. What has been escaped is read as the text that
it was, and it has no other characters than this text, the backslash apart. It stays within its
quotes: a reader that lets every backslash take the next character along meets no quote before the
one that closes the literal.
-/

namespace ClassInference

namespace Source

variable {s : String} {c : Char} {cs : List Char}

/-- The text of a literal's body: a backslash stands for the backslash or the quote after it. -/
def unescape : List Char → List Char
  | '\\' :: '\\' :: rest => '\\' :: unescape rest
  | '\\' :: '"' :: rest => '"' :: unescape rest
  | c :: rest => c :: unescape rest
  | [] => []

def unescapeLiteral (s : String) : String := String.ofList (unescape s.toList)

def escapeChar (c : Char) : List Char :=
  if c = '\\' then ['\\', '\\'] else if c = '"' then ['\\', '"'] else [c]

theorem toList_escapeLiteral (s : String) :
    (escapeLiteral s).toList = s.toList.flatMap escapeChar :=
  String.toList_ofList

theorem unescape_cons (hc : c ≠ '\\') (cs : List Char) :
    unescape (c :: cs) = c :: unescape cs := by
  rw [unescape]
  · simp [hc]
  · simp [hc]

theorem unescape_flatMap_escapeChar (cs : List Char) : unescape (cs.flatMap escapeChar) = cs := by
  induction cs with
  | nil => rfl
  | cons c cs ih =>
      rw [List.flatMap_cons]
      by_cases hslash : c = '\\'
      · subst hslash
        exact congrArg _ ih
      · by_cases hquote : c = '"'
        · subst hquote
          exact congrArg _ ih
        · have hplain : escapeChar c = [c] := by rw [escapeChar, if_neg hslash, if_neg hquote]
          rw [hplain, List.singleton_append, unescape_cons hslash, ih]

theorem unescapeLiteral_escapeLiteral (s : String) : unescapeLiteral (escapeLiteral s) = s := by
  rw [unescapeLiteral, toList_escapeLiteral, unescape_flatMap_escapeChar, String.ofList_toList]

/-! ### Two replacements -/

/-- Replacing a character is replacing it wherever it stands. -/
theorem replaceFrom_singleton (p : Char) (value cs : List Char) :
    Text.replaceFrom [p] value 0 cs = cs.flatMap fun c => if c = p then value else [c] := by
  induction cs with
  | nil => rfl
  | cons c cs ih =>
      rw [Text.replaceFrom, List.flatMap_cons, List.length_singleton, Nat.sub_self, ih]
      by_cases hc : c = p
      · rw [if_pos (by simp [hc]), if_pos hc]
      · rw [if_neg (by simp [Ne.symm hc]), if_neg hc]
        rfl

/-- Escaping the backslashes first and then the quotes escapes each character once: no quote comes
in by the first replacement, and the second one leaves its backslashes as they are. -/
theorem escapeLiteral_eq_replaceAll (s : String) :
    escapeLiteral s
      = Text.replaceAll "\"" "\\\"" (Text.replaceAll "\\" "\\\\" s) := by
  have heach : escapeChar = fun c => (if c = '\\' then ['\\', '\\'] else [c]).flatMap
      fun d => if d = '"' then ['\\', '"'] else [d] := by
    funext c
    by_cases hslash : c = '\\'
    · subst hslash
      rfl
    · simp [escapeChar, hslash]
  apply String.toList_inj.1
  rw [toList_escapeLiteral, heach, ← List.flatMap_assoc, ← replaceFrom_singleton,
    ← replaceFrom_singleton]
  have hslash : "\\".toList = ['\\'] ∧ "\\\\".toList = ['\\', '\\'] := by decide
  have hquote : "\"".toList = ['"'] ∧ "\\\"".toList = ['\\', '"'] := by decide
  simp only [Text.replaceAll, hslash, hquote, String.toList_ofList]

/-! ### Within the quotes -/

/-- Read on in a literal, where `escaped` says whether a backslash takes the next character along:
no quote is met that a backslash does not take along, and no backslash is left alone at the end. -/
def staysWithin : Bool → List Char → Bool
  | escaped, [] => !escaped
  | escaped, c :: cs => (escaped || c != '"') && staysWithin (!escaped && c == '\\') cs

theorem staysWithin_escapeChar (c : Char) (cs : List Char) :
    staysWithin false (escapeChar c ++ cs) = staysWithin false cs := by
  by_cases hslash : c = '\\'
  · subst hslash
    rfl
  · by_cases hquote : c = '"'
    · subst hquote
      rfl
    · have hplain : escapeChar c = [c] := by rw [escapeChar, if_neg hslash, if_neg hquote]
      rw [hplain, List.singleton_append, staysWithin, bne_iff_ne.2 hquote,
        beq_eq_false_iff_ne.2 hslash]
      rfl

theorem staysWithin_flatMap_escapeChar (cs : List Char) :
    staysWithin false (cs.flatMap escapeChar) = true := by
  induction cs with
  | nil => rfl
  | cons c cs ih => rw [List.flatMap_cons, staysWithin_escapeChar, ih]

/-- Escaping, which takes two replacements, makes the body of a literal that stays within its quotes
and reads as the text; so different texts have different literals. -/
theorem staysWithin_escapeLiteral :
    (∀ s, escapeLiteral s = Text.replaceAll "\"" "\\\"" (Text.replaceAll "\\" "\\\\" s) ∧
      staysWithin false (escapeLiteral s).toList = true ∧
      unescapeLiteral (escapeLiteral s) = s) ∧
    Function.Injective escapeLiteral := by
  constructor
  · intro s
    refine ⟨escapeLiteral_eq_replaceAll s, ?_, unescapeLiteral_escapeLiteral s⟩
    rw [toList_escapeLiteral]
    exact staysWithin_flatMap_escapeChar s.toList
  · intro s t h
    rw [← unescapeLiteral_escapeLiteral s, h, unescapeLiteral_escapeLiteral]

/-! ### Characters of a literal -/

/-- What a literal reads as has no other characters than the literal. -/
theorem mem_of_mem_unescape (h : c ∈ unescape cs) : c ∈ cs := by
  fun_induction unescape cs with
  | case1 rest ih =>
      apply List.mem_cons_of_mem
      rw [List.mem_cons] at h ⊢
      exact h.imp_right ih
  | case2 rest ih =>
      apply List.mem_cons_of_mem
      rw [List.mem_cons] at h ⊢
      exact h.imp_right ih
  | case3 d rest _ _ ih =>
      rw [List.mem_cons] at h ⊢
      exact h.imp_right ih
  | case4 => exact h

/-- Escaping brings in backslashes only. -/
theorem mem_of_mem_escapeLiteral (hc : c ≠ '\\') (h : c ∈ (escapeLiteral s).toList) :
    c ∈ s.toList := by
  rw [toList_escapeLiteral, List.mem_flatMap] at h
  obtain ⟨d, hd, hmem⟩ := h
  have hcd : c = d := by
    unfold escapeChar at hmem
    split at hmem
    · simp [hc] at hmem
    · split at hmem
      · rename_i hquote
        simpa [hc, hquote] using hmem
      · simpa using hmem
  rwa [hcd]

end Source

end ClassInference
