import ClassInference.Proofs.TypeNames
import Mathlib.Data.List.Basic

/-!
# Capital forms of capital forms

No capital form begins with a character that has another capital form, so that a text whose first
letter has been made capital stays as it is when that is done again. The case maps are tables: the
code points with a capital form of their own and those that capital forms begin with are listed, and
the two lists are held against each other as sets of bits.
-/

namespace ClassInference

namespace Text

/-! ### Sets of code points -/

/-- The code points as the bits of a number. -/
def bits : List Nat → Nat
  | [] => 0
  | code :: codes => Nat.pow 2 code ||| bits codes

theorem testBit_bits {codes : List Nat} {code : Nat} :
    (bits codes).testBit code = true ↔ code ∈ codes := by
  induction codes with
  | nil => simp [bits]
  | cons c codes ih =>
      have hpow : (Nat.pow 2 c).testBit code = decide (c = code) := Nat.testBit_two_pow
      rw [bits, Nat.testBit_or, hpow, Bool.or_eq_true, decide_eq_true_eq, ih, List.mem_cons,
        eq_comm]

/-- Sets without a common bit have no code point in common. -/
theorem disjoint_of_bits {codes others : List Nat} (h : bits codes &&& bits others = 0) :
    codes.Disjoint others := by
  intro code hc ho
  have hbit : (bits codes &&& bits others).testBit code = true := by
    rw [Nat.testBit_and, testBit_bits.2 hc, testBit_bits.2 ho]
    rfl
  rw [h, Nat.zero_testBit] at hbit
  contradiction

/-- The code points of a run. -/
def CodeRun.codes (run : CodeRun) : List Nat :=
  List.range' run.first ((run.last - run.first) / run.step + 1) run.step

theorem CodeRun.mem_codes {run : CodeRun} {code : Nat} (h : run.contains code = true) :
    code ∈ run.codes := by
  obtain ⟨⟨hfirst, hlast⟩, hstep⟩ := contains_iff.1 h
  have hdvd : run.step ∣ code - run.first := Nat.dvd_of_mod_eq_zero hstep
  rw [codes, List.mem_range']
  refine ⟨(code - run.first) / run.step, ?_, ?_⟩
  · exact Nat.lt_succ_of_le (Nat.div_le_div_right (by omega))
  · rw [Nat.mul_div_cancel' hdvd]
    omega

/-! ### The table of capital forms -/

/-- The code points that have a capital form in the table. -/
def capitalSources : List Nat :=
  capitalShifts.flatMap (·.run.codes) ++ capitalExpansions.map Prod.fst

/-- The code points that those of the run map to. -/
def CaseShift.targets (s : CaseShift) : List Nat :=
  s.run.codes.map fun code : Nat => (code + s.shift).toNat

/-- The code points that the capital forms in the table begin with. -/
def capitalHeads : List Nat :=
  capitalShifts.flatMap (·.targets) ++ capitalExpansions.filterMap (·.2.head?)

theorem disjoint_capitalHeads : capitalHeads.Disjoint capitalSources :=
  disjoint_of_bits (by decide +kernel)

theorem capitalForm_of_not_mem {c : Char} (h : c.toNat ∉ capitalSources) : capitalForm c = [c] := by
  rw [capitalSources, List.mem_append, not_or] at h
  have hlookup : capitalExpansions.lookup c.toNat = none := by
    rw [List.lookup_eq_none_iff]
    intro e he
    have hne : c.toNat ≠ e.1 := fun hc => h.2 (hc ▸ List.mem_map_of_mem he)
    simpa using hne
  have hfind : capitalShifts.find? (·.run.contains c.toNat) = none := by
    rw [List.find?_eq_none]
    intro s hs hc
    exact h.1 (List.mem_flatMap.2 ⟨s, hs, CodeRun.mem_codes hc⟩)
  rw [capitalForm_eq, hlookup, Option.elim_none, CaseShift.apply, hfind]

theorem mem_head?_capitalForm {c first : Char} (h : first ∈ (capitalForm c).head?) :
    capitalForm c = [c] ∨ ∃ code ∈ capitalHeads, first = Char.ofNat code := by
  rw [capitalForm_eq] at h ⊢
  cases hlookup : capitalExpansions.lookup c.toNat with
  | some codes =>
      rw [hlookup, Option.elim_some, List.head?_map, Option.mem_def] at h
      obtain ⟨code, hcode, rfl⟩ := Option.map_eq_some_iff.1 h
      have hhead : code ∈ capitalExpansions.filterMap (·.2.head?) :=
        List.mem_filterMap.2 ⟨_, mem_of_lookup hlookup, hcode⟩
      exact .inr ⟨code, List.mem_append_right _ hhead, rfl⟩
  | none =>
      rw [hlookup, Option.elim_none, List.head?_cons, Option.mem_some] at h
      rw [Option.elim_none]
      rcases CaseShift.apply_cases capitalShifts c with hsame | ⟨s, hs, hcontains, hshift⟩
      · exact .inl (by rw [hsame])
      · have htarget : (c.toNat + s.shift : Int).toNat ∈ s.targets :=
          List.mem_map_of_mem (CodeRun.mem_codes hcontains)
        have hhead : (c.toNat + s.shift : Int).toNat ∈ capitalShifts.flatMap (·.targets) :=
          List.mem_flatMap.2 ⟨s, hs, htarget⟩
        exact .inr ⟨_, List.mem_append_left _ hhead, h.symm.trans hshift⟩

/-- What a capital form begins with is its own capital form. -/
theorem capitalForm_of_mem_head? {c first : Char} (h : first ∈ (capitalForm c).head?) :
    capitalForm first = [first] := by
  rcases mem_head?_capitalForm h with hself | ⟨code, hcode, rfl⟩
  · rw [hself, List.head?_cons, Option.mem_some] at h
    rw [← h, hself]
  · rcases toNat_ofNat_or code with hvalid | hnull
    · apply capitalForm_of_not_mem
      rw [hvalid]
      exact disjoint_capitalHeads hcode
    · -- a shift that leads to no code point
      rw [hnull]
      decide +kernel

end Text

namespace Naming

open Text

theorem capitalizeChars_eq_self_iff (cs : List Char) :
    capitalizeChars cs = cs ↔ ∀ first ∈ cs.head?, capitalForm first = [first] := by
  cases cs with
  | nil => simp [capitalizeChars]
  | cons c cs =>
      have hcancel : capitalForm c ++ cs = [c] ++ cs ↔ capitalForm c = [c] :=
        List.append_left_inj cs
      rw [capitalizeChars, List.head?_cons]
      simpa using hcancel

theorem capitalize_eq_self_iff (s : String) :
    capitalize s = s ↔ ∀ first ∈ s.toList.head?, capitalForm first = [first] := by
  rw [← capitalizeChars_eq_self_iff, capitalize]
  constructor
  · intro h
    have hchars := congrArg String.toList h
    rwa [String.toList_ofList] at hchars
  · intro h
    rw [h, String.ofList_toList]

/-- Making the first letter capital once more changes nothing. -/
theorem capitalize_capitalize (s : String) : capitalize (capitalize s) = capitalize s := by
  rw [capitalize_eq_self_iff, capitalize, String.toList_ofList]
  intro first hfirst
  cases hs : s.toList with
  | nil => simp [hs, capitalizeChars] at hfirst
  | cons c cs =>
      obtain ⟨head, hhead, -⟩ := exists_head?_capitalForm c
      obtain ⟨rest, hform⟩ := List.head?_eq_some_iff.1 hhead
      rw [hs, capitalizeChars, hform, List.cons_append, List.head?_cons, Option.mem_some] at hfirst
      exact capitalForm_of_mem_head? (hfirst ▸ hhead)

end Naming

end ClassInference
