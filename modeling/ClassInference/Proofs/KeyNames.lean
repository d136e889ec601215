import ClassInference.Proofs.TypeNames
import Mathlib

/-!
# Names for keys

A key is cut into words, the words change their case and are joined. What comes out is a name that
code can use, because no case map leaves a word empty or puts an underscore into it: the only
underscore is the one in front of a numeral or the one that stands for a key without words. In ASCII
the case maps work letter by letter, so that the name still has the letters and digits of the key in
their order, and a capital where a later word begins.
-/

namespace ClassInference

namespace Text

/-! ### Case maps without underscores -/

/-- Some characters, none of them an underscore. -/
structure Solid (cs : List Char) : Prop where
  ne_nil : cs ≠ []
  not_mem : '_' ∉ cs

theorem Solid.of_cons {c : Char} {cs : List Char} (h : Solid (c :: cs)) : c ≠ '_' ∧ '_' ∉ cs := by
  have hmem := h.not_mem
  rw [List.mem_cons, not_or] at hmem
  exact ⟨Ne.symm hmem.1, hmem.2⟩

theorem Solid.append {cs more : List Char} (h : Solid cs) (hmore : '_' ∉ more) :
    Solid (cs ++ more) :=
  ⟨List.append_ne_nil_of_left_ne_nil h.ne_nil more, by simp [h.not_mem, hmore]⟩

/-- None of the shifts leads to an underscore, and no expansion is empty or has one. -/
structure AvoidsUnderscore (shifts : List CaseShift) (expansions : List (Nat × List Nat)) :
    Prop where
  shifts : ∀ s ∈ shifts, (s.run.last : Int) + s.shift < 95 ∨ 95 < (s.run.first : Int) + s.shift
  expansions : ∀ e ∈ expansions, e.2 ≠ [] ∧ 95 ∉ e.2

theorem avoidsUnderscore_capital : AvoidsUnderscore capitalShifts capitalExpansions :=
  ⟨by decide +kernel, by decide +kernel⟩

theorem avoidsUnderscore_small : AvoidsUnderscore smallShifts smallExpansions :=
  ⟨by decide +kernel, by decide +kernel⟩

theorem ofNat_eq_underscore {code : Nat} (h : Char.ofNat code = '_') : code = 95 := by
  rcases toNat_ofNat_or code with hcode | hnull
  · rw [h] at hcode
    exact hcode.symm
  · rw [h] at hnull
    exact absurd hnull (by decide)

variable {shifts : List CaseShift} {expansions : List (Nat × List Nat)} {c : Char} {cs : List Char}

theorem AvoidsUnderscore.apply_ne (h : AvoidsUnderscore shifts expansions) (hc : c ≠ '_') :
    CaseShift.apply shifts c ≠ '_' := by
  rcases CaseShift.apply_cases shifts c with hsame | ⟨s, hs, hcontains, hshift⟩
  · rwa [hsame]
  · rw [hshift]
    intro heq
    have havoid := h.shifts s hs
    have hcode := ofNat_eq_underscore heq
    obtain ⟨hrun, -⟩ := CodeRun.contains_iff.1 hcontains
    omega

theorem AvoidsUnderscore.solid (h : AvoidsUnderscore shifts expansions) (hc : c ≠ '_') :
    Solid ((expansions.lookup c.toNat).elim [CaseShift.apply shifts c] (·.map Char.ofNat)) := by
  cases hcodes : expansions.lookup c.toNat with
  | none => exact ⟨by simp, by simpa using (h.apply_ne hc).symm⟩
  | some codes =>
      obtain ⟨hne, hfree⟩ := h.expansions _ (mem_of_lookup hcodes)
      refine ⟨by simpa using hne, ?_⟩
      rw [Option.elim_some, List.mem_map]
      rintro ⟨code, hcode, heq⟩
      exact hfree (ofNat_eq_underscore heq ▸ hcode)

theorem solid_capitalForm (hc : c ≠ '_') : Solid (capitalForm c) := by
  rw [capitalForm_eq]
  exact avoidsUnderscore_capital.solid hc

theorem solid_smallForm (hc : c ≠ '_') : Solid (smallForm c) := by
  rw [smallForm_eq]
  exact avoidsUnderscore_small.solid hc

theorem solid_smallFormIn (before after : List Char) (hc : c ≠ '_') :
    Solid (smallFormIn before c after) := by
  unfold smallFormIn
  split
  · split <;> exact ⟨by simp, by decide⟩
  · exact solid_smallForm hc

theorem not_mem_lower (h : '_' ∉ cs) : '_' ∉ lower cs := by
  induction cs using lower_induction with
  | nil => exact List.not_mem_nil
  | cons before c after out ih =>
      rw [List.mem_cons, not_or] at h
      rw [List.mem_append, not_or]
      exact ⟨(solid_smallFormIn before after (Ne.symm h.1)).not_mem, ih h.2⟩

theorem Solid.lower (h : Solid cs) : Solid (lower cs) := by
  refine ⟨?_, not_mem_lower h.not_mem⟩
  induction cs using lower_induction with
  | nil => exact absurd rfl h.ne_nil
  | cons before c after out ih =>
      have hform := solid_smallFormIn before after h.of_cons.1
      exact List.append_ne_nil_of_left_ne_nil hform.ne_nil out

/-! ### Case maps in ASCII -/

/-- All characters are ASCII. -/
def IsAscii (cs : List Char) : Prop := ∀ c ∈ cs, c.toNat < 128

instance (cs : List Char) : Decidable (IsAscii cs) :=
  List.decidableBAll (fun c : Char => c.toNat < 128) cs

theorem forall_ascii {P : Char → Prop} (h : ∀ code < 128, P (Char.ofNat code)) {c : Char}
    (hc : c.toNat < 128) : P c :=
  Char.ofNat_toNat c ▸ h c.toNat hc

section Ascii

variable {c : Char} (hc : c.toNat < 128)

include hc

theorem first_lt_of_contains {run : CodeRun} (h : run.contains c.toNat = true) :
    run.first < 128 := by
  obtain ⟨⟨hfirst, -⟩, -⟩ := CodeRun.contains_iff.1 h
  omega

/-- In ASCII only the runs count that begin there. -/
theorem covers_of_ascii (runs : List CodeRun) :
    CodeRun.covers runs c = CodeRun.covers (runs.filter (·.first < 128)) c := by
  rw [Bool.eq_iff_iff, CodeRun.covers_iff, CodeRun.covers_iff]
  constructor
  · rintro ⟨run, hrun, hcontains⟩
    have hfirst : run.first < 128 := first_lt_of_contains hc hcontains
    exact ⟨run, List.mem_filter.2 ⟨hrun, by simpa using hfirst⟩, hcontains⟩
  · rintro ⟨run, hrun, hcontains⟩
    exact ⟨run, (List.mem_filter.1 hrun).1, hcontains⟩

theorem apply_of_ascii (shifts : List CaseShift) :
    CaseShift.apply shifts c = CaseShift.apply (shifts.filter (·.run.first < 128)) c := by
  have hfind : (shifts.filter (·.run.first < 128)).find? (·.run.contains c.toNat)
      = shifts.find? (·.run.contains c.toNat) := by
    rw [List.find?_filter]
    congr 1
    funext s
    rw [Bool.eq_iff_iff, decide_eq_true_eq]
    exact and_iff_right_of_imp fun h => by simpa using first_lt_of_contains hc h
  rw [CaseShift.apply, CaseShift.apply, hfind]

theorem lookup_of_ascii {expansions : List (Nat × List Nat)} (h : ∀ e ∈ expansions, 128 ≤ e.1) :
    expansions.lookup c.toNat = none := by
  rw [List.lookup_eq_none_iff]
  intro e he
  have hle := h e he
  simp only [bne_iff_ne]
  omega

theorem capitalForm_of_ascii : capitalForm c = [c.toUpper] := by
  have hshifts : capitalShifts.filter (·.run.first < 128) = [⟨⟨0x61, 0x7a, 1⟩, -32⟩] := by
    decide +kernel
  rw [capitalForm_eq, lookup_of_ascii hc (by decide +kernel), apply_of_ascii hc, hshifts]
  exact forall_ascii (P := fun c => [CaseShift.apply [⟨⟨0x61, 0x7a, 1⟩, -32⟩] c] = [c.toUpper])
    (by decide +kernel) hc

theorem smallForm_of_ascii : smallForm c = [c.toLower] := by
  have hshifts : smallShifts.filter (·.run.first < 128) = [⟨⟨0x41, 0x5a, 1⟩, 32⟩] := by
    decide +kernel
  rw [smallForm_eq, lookup_of_ascii hc (by decide +kernel), apply_of_ascii hc, hshifts]
  exact forall_ascii (P := fun c => [CaseShift.apply [⟨⟨0x41, 0x5a, 1⟩, 32⟩] c] = [c.toLower])
    (by decide +kernel) hc

end Ascii

theorem lower_of_ascii {cs : List Char} (h : IsAscii cs) : lower cs = cs.map Char.toLower := by
  induction cs using lower_induction with
  | nil => rfl
  | cons before c after out ih =>
      obtain ⟨hc, hafter⟩ := List.forall_mem_cons.1 h
      have hne : c ≠ 'Σ' := by
        rintro rfl
        exact absurd hc (by decide)
      rw [smallFormIn, if_neg hne, smallForm_of_ascii hc, ih hafter]
      rfl

end Text

namespace Naming

open Text

variable {key cs w : List Char} {lead : List Char → List Char}

/-! ### Words -/

theorem isWordChar_of_ascii {c : Char} (hc : c.toNat < 128) : isWordChar c = c.isAlphanum := by
  have hletters : letterRuns.filter (·.first < 128) = [⟨0x41, 0x5a, 1⟩, ⟨0x61, 0x7a, 1⟩] := by
    decide +kernel
  have hnumerals : numeralRuns.filter (·.first < 128) = [⟨0x30, 0x39, 1⟩] := by
    decide +kernel
  rw [isWordChar, isLetter, isNumeral, covers_of_ascii hc letterRuns, hletters,
    covers_of_ascii hc numeralRuns, hnumerals]
  exact forall_ascii (P := fun c => (CodeRun.covers [⟨0x41, 0x5a, 1⟩, ⟨0x61, 0x7a, 1⟩] c
    || CodeRun.covers [⟨0x30, 0x39, 1⟩] c) = c.isAlphanum) (by decide +kernel) hc

/-- The words of a key are its letters and numerals. -/
theorem flatten_words (key : List Char) : (words key).flatten = key.filter isWordChar := by
  rw [words, List.flatten_filter_not_isEmpty, flatten_split]
  simp

theorem mem_key_of_mem_word {c : Char} (hw : w ∈ words key) (hc : c ∈ w) :
    c ∈ key ∧ isWordChar c = true := by
  have hmem : c ∈ (words key).flatten := List.mem_flatten.2 ⟨w, hw, hc⟩
  rwa [flatten_words, List.mem_filter] at hmem

theorem solid_of_mem_words (hw : w ∈ words key) : Solid w := by
  constructor
  · rintro rfl
    simp [words] at hw
  · intro hmem
    exact absurd (mem_key_of_mem_word hw hmem).2 (by decide +kernel)

/-- A separator ends one word and begins another. -/
theorem words_append {sep : Char} (hsep : isWordChar sep = false) (before after : List Char) :
    words (before ++ sep :: after) = words before ++ words after := by
  rw [words, split_append (by rw [hsep]; rfl), List.filter_append]
  rfl

theorem exists_words_cons {c : Char} (hc : isWordChar c = true) (after : List Char) :
    ∃ w ws, words (c :: after) = (c :: w) :: ws := by
  rw [words, split, if_neg (by simp [hc])]
  cases split (fun c => !isWordChar c) after with
  | nil => exact ⟨[], [], rfl⟩
  | cons piece rest => exact ⟨piece, rest.filter fun w => !w.isEmpty, rfl⟩

/-! ### Names -/

theorem solid_capitalizeChars (h : Solid w) : Solid (capitalizeChars w) := by
  cases w with
  | nil => exact absurd rfl h.ne_nil
  | cons c cs => exact (solid_capitalForm h.of_cons.1).append h.of_cons.2

theorem solid_decapitalizeChars (h : Solid w) : Solid (decapitalizeChars w) := by
  unfold decapitalizeChars
  split
  · exact h.lower
  · cases w with
    | nil => exact absurd rfl h.ne_nil
    | cons c cs => exact (solid_smallForm h.of_cons.1).append h.of_cons.2

/-- A name that code can use: there is one, it does not start with a numeral, and it has an
underscore only in front, either alone or before a numeral. -/
structure WellFormed (name : List Char) : Prop where
  ne_nil : name ≠ []
  start : ∀ c ∈ name.head?, isNumeral c = false
  underscore : ∀ before after, name = before ++ '_' :: after →
    before = [] ∧ (after = [] ∨ ∃ c ∈ after.head?, isNumeral c = true)

/-- The words of a name joined. -/
def joined (lead : List Char → List Char) : List (List Char) → List Char
  | [] => []
  | w :: ws => lead w ++ ws.flatMap capitalizeChars

theorem camelCase_eq (lead : List Char → List Char) (key : List Char) :
    camelCase lead key
      = if words key = [] then ['_'] else guardNumeral (joined lead (words key)) := by
  unfold camelCase
  cases words key <;> rfl

theorem solid_joined (hlead : ∀ w, Solid w → Solid (lead w)) (hne : words key ≠ []) :
    Solid (joined lead (words key)) := by
  cases hws : words key with
  | nil => exact absurd hws hne
  | cons w ws =>
      have hsolid : ∀ v ∈ w :: ws, Solid v := fun v hv => solid_of_mem_words (hws ▸ hv)
      apply (hlead w (hsolid w List.mem_cons_self)).append
      rw [List.mem_flatMap]
      rintro ⟨v, hv, hmem⟩
      exact (solid_capitalizeChars (hsolid v (List.mem_cons_of_mem w hv))).not_mem hmem

theorem isNumeral_underscore : isNumeral '_' = false := by decide +kernel

theorem wellFormed_guardNumeral (h : Solid cs) : WellFormed (guardNumeral cs) := by
  cases cs with
  | nil => exact absurd rfl h.ne_nil
  | cons c cs =>
      rw [guardNumeral]
      split
      · rename_i hc
        refine ⟨by simp, by simpa using isNumeral_underscore, ?_⟩
        intro before after heq
        cases before with
        | nil =>
            obtain rfl : c :: cs = after := (List.cons.inj heq).2
            exact ⟨rfl, .inr ⟨c, rfl, hc⟩⟩
        | cons x before =>
            have htail : c :: cs = before ++ '_' :: after := (List.cons.inj heq).2
            exact absurd (htail ▸ List.mem_append_right before List.mem_cons_self) h.not_mem
      · rename_i hc
        refine ⟨by simp, by simpa using hc, ?_⟩
        intro before after heq
        exact absurd (heq ▸ List.mem_append_right before List.mem_cons_self) h.not_mem

theorem wellFormed_camelCase (hlead : ∀ w, Solid w → Solid (lead w)) (key : List Char) :
    WellFormed (camelCase lead key) := by
  rw [camelCase_eq]
  split
  · refine ⟨by simp, by simpa using isNumeral_underscore, ?_⟩
    intro before after heq
    cases before with
    | nil => exact ⟨rfl, .inl (List.cons.inj heq).2.symm⟩
    | cons x before => simp at heq
  · exact wellFormed_guardNumeral (solid_joined hlead ‹_›)

/-! ### Letters and digits in ASCII -/

/-- A name without the underscore that it may begin with. -/
def bare : List Char → List Char
  | [] => []
  | c :: cs => if c = '_' then cs else c :: cs

theorem bare_guardNumeral (h : '_' ∉ cs) : bare (guardNumeral cs) = cs := by
  cases cs with
  | nil => rfl
  | cons c cs =>
      rw [guardNumeral]
      split
      · rfl
      · have hc : c ≠ '_' := fun heq => h (heq ▸ List.mem_cons_self)
        exact if_neg hc

theorem bare_camelCase (hlead : ∀ w, Solid w → Solid (lead w)) (key : List Char) :
    bare (camelCase lead key) = joined lead (words key) := by
  rw [camelCase_eq]
  split
  · rename_i hws
    rw [hws]
    rfl
  · exact bare_guardNumeral (solid_joined hlead ‹_›).not_mem

/-- The same letters in the same order, whatever their case. -/
def SameLetters (cs ds : List Char) : Prop := cs.map Char.toLower = ds.map Char.toLower

theorem sameLetters_capitalizeChars (h : IsAscii w) : SameLetters (capitalizeChars w) w := by
  cases w with
  | nil => rfl
  | cons c cs =>
      have hc : c.toNat < 128 := h c List.mem_cons_self
      rw [capitalizeChars, capitalForm_of_ascii hc, SameLetters, List.map_append, List.map_cons,
        List.map_cons, Char.toLower_toUpper_eq_toLower]
      rfl

theorem sameLetters_decapitalizeChars (h : IsAscii w) :
    SameLetters (decapitalizeChars w) w := by
  unfold decapitalizeChars
  split
  · rw [lower_of_ascii h, SameLetters, List.map_map]
    exact List.map_congr_left fun c _ => c.toLower_toLower_eq_toLower
  · cases w with
    | nil => rfl
    | cons c cs =>
        have hc : c.toNat < 128 := h c List.mem_cons_self
        dsimp only
        rw [smallForm_of_ascii hc, SameLetters, List.map_append, List.map_cons, List.map_cons,
          Char.toLower_toLower_eq_toLower]
        rfl

theorem sameLetters_joined (hlead : ∀ w, IsAscii w → SameLetters (lead w) w)
    {ws : List (List Char)} (h : ∀ w ∈ ws, IsAscii w) :
    SameLetters (joined lead ws) ws.flatten := by
  cases ws with
  | nil => rfl
  | cons w ws =>
      obtain ⟨hw, hws⟩ := List.forall_mem_cons.1 h
      have hrest : SameLetters (ws.flatMap capitalizeChars) ws.flatten := by
        rw [SameLetters, List.map_flatMap, List.map_flatten, List.flatMap_def]
        exact congrArg _ (List.map_congr_left fun v hv => sameLetters_capitalizeChars (hws v hv))
      rw [SameLetters] at hrest ⊢
      rw [joined, List.flatten_cons, List.map_append, List.map_append, hrest, hlead w hw]

/-- A later word begins with a capital in the joined words, after the letters of the words before
it. -/
theorem getElem?_joined (hlead : ∀ w, IsAscii w → SameLetters (lead w) w)
    {us ws : List (List Char)} (hus : us ≠ []) (h : ∀ w ∈ us, IsAscii w) {c : Char}
    (hc : c.toNat < 128) :
    (joined lead (us ++ (c :: w) :: ws))[us.flatten.length]? = some c.toUpper := by
  obtain ⟨u, us, rfl⟩ := List.exists_cons_of_ne_nil hus
  have hlength : (joined lead (u :: us)).length = (u :: us).flatten.length := by
    have hletters := congrArg List.length (sameLetters_joined hlead h)
    rwa [List.length_map, List.length_map] at hletters
  have hsplit : joined lead (u :: us ++ (c :: w) :: ws)
      = joined lead (u :: us) ++ c.toUpper :: (w ++ ws.flatMap capitalizeChars) := by
    simp [joined, capitalizeChars, capitalForm_of_ascii hc]
  rw [hsplit, ← hlength, List.getElem?_append_right le_rfl, Nat.sub_self]
  rfl

/-- The name has the letters and digits of the key in their order, with their case changed, and a
capital for every letter that begins a word after the first. -/
structure KeepsCharacters (key name : List Char) : Prop where
  letters : SameLetters (bare name) (key.filter Char.isAlphanum)
  capitals : ∀ before sep c after, key = before ++ sep :: c :: after → sep.isAlphanum = false →
    c.isAlpha = true → before.any Char.isAlphanum = true →
      (bare name)[before.countP Char.isAlphanum]? = some c.toUpper

theorem filter_isWordChar_of_ascii (h : IsAscii cs) :
    cs.filter isWordChar = cs.filter Char.isAlphanum :=
  List.filter_congr fun c hc => isWordChar_of_ascii (h c hc)

theorem keepsCharacters_camelCase (hsolid : ∀ w, Solid w → Solid (lead w))
    (hlead : ∀ w, IsAscii w → SameLetters (lead w) w) (h : IsAscii key) :
    KeepsCharacters key (camelCase lead key) := by
  have hplain : ∀ {part}, IsAscii part → ∀ w ∈ words part, IsAscii w :=
    fun hpart w hw c hc => hpart c (mem_key_of_mem_word hw hc).1
  constructor
  · rw [bare_camelCase hsolid, ← filter_isWordChar_of_ascii h, ← flatten_words]
    exact sameLetters_joined hlead (hplain h)
  · rintro before sep c after rfl hsep hc hbefore
    have hpart : IsAscii before := fun x hx => h x (List.mem_append_left _ hx)
    have hrest : IsAscii (sep :: c :: after) := fun x hx => h x (List.mem_append_right _ hx)
    obtain ⟨hsepPlain, hrest⟩ := List.forall_mem_cons.1 hrest
    have hcPlain : c.toNat < 128 := hrest c List.mem_cons_self
    have hword : isWordChar c = true := by
      rw [isWordChar_of_ascii hcPlain, Char.isAlphanum, hc, Bool.true_or]
    obtain ⟨w, ws, hwords⟩ := exists_words_cons hword after
    have hcount : (words before).flatten.length = before.countP Char.isAlphanum := by
      rw [flatten_words, filter_isWordChar_of_ascii hpart, List.countP_eq_length_filter]
    have hne : words before ≠ [] := by
      intro hnil
      obtain ⟨x, hx, halnum⟩ := List.any_eq_true.1 hbefore
      have hpos : 0 < before.countP Char.isAlphanum := List.countP_pos_iff.2 ⟨x, hx, halnum⟩
      rw [← hcount, hnil] at hpos
      exact Nat.lt_irrefl 0 hpos
    rw [bare_camelCase hsolid, words_append (isWordChar_of_ascii hsepPlain ▸ hsep), hwords,
      ← hcount]
    exact getElem?_joined hlead hne (hplain hpart) hcPlain

/-- Whatever the key, both of its names are well-formed, and the names of a key in ASCII keep its
letters and digits. -/
theorem names_wellFormed (key : String) :
    (WellFormed (fieldName key).toList ∧ WellFormed (typeName key).toList) ∧
      (IsAscii key.toList →
        KeepsCharacters key.toList (fieldName key).toList ∧
          KeepsCharacters key.toList (typeName key).toList) := by
  rw [fieldName, typeName, String.toList_ofList, String.toList_ofList]
  have hfield : ∀ w, Solid w → Solid (decapitalizeChars w) := fun _ => solid_decapitalizeChars
  have htype : ∀ w, Solid w → Solid (capitalizeChars w) := fun _ => solid_capitalizeChars
  refine ⟨⟨wellFormed_camelCase hfield _, wellFormed_camelCase htype _⟩, fun hplain => ⟨?_, ?_⟩⟩
  · exact keepsCharacters_camelCase hfield (fun _ => sameLetters_decapitalizeChars) hplain
  · exact keepsCharacters_camelCase htype (fun _ => sameLetters_capitalizeChars) hplain

example : fieldName "2nd_ID-url path" = "_2ndIDUrlPath" := by
  decide +kernel

theorem names_wellFormed_ordinalKey :
    let key := "2nd_ID-url path"
    IsAscii key.toList ∧ (WellFormed (fieldName key).toList ∧ WellFormed (typeName key).toList) ∧
      KeepsCharacters key.toList (fieldName key).toList ∧
        KeepsCharacters key.toList (typeName key).toList := by
  intro key
  have hascii : IsAscii key.toList := by decide
  obtain ⟨hformed, hkeeps⟩ := names_wellFormed key
  exact ⟨hascii, hformed, hkeeps hascii⟩

end Naming

end ClassInference
