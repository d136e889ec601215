/-!
# Glob patterns

Patterns of names: `?` stands for one character, `*` for any row of characters, brackets for one
character of a set or outside it. Two stars that fill a component stand for directories of any
depth.
-/

namespace ClassInference

namespace Glob

inductive Token where
  | char (c : Char)
  | any
  | run
  | deep
  | within (ranges : List (Char × Char))
  | except (ranges : List (Char × Char))
deriving Repr, DecidableEq

abbrev Pattern := List Token

inductive Complaint where
  | stars
  | component
  | range
deriving Repr, DecidableEq

/-- A pattern that cannot be read, and the character where that shows. -/
structure PatternFault where
  position : Nat
  complaint : Complaint
deriving Repr, DecidableEq

def Complaint.message : Complaint → String
  | stars => "wildcards are either regular `*` or recursive `**`"
  | component => "recursive wildcards must form a single path component"
  | range => "invalid range pattern"

def PatternFault.message (f : PatternFault) : String :=
  "Pattern syntax error near position " ++ toString f.position ++ ": " ++ f.complaint.message

/-- The ranges of a set. A hyphen between two characters makes a range of them. -/
def ranges : List Char → List (Char × Char)
  | a :: '-' :: b :: cs => (a, b) :: ranges cs
  | a :: cs => (a, a) :: ranges cs
  | [] => []

/-- The set that follows an opening bracket, and what follows it. The first character of a set
may be a closing bracket. -/
def set? (cs : List Char) : Option (Token × List Char) :=
  match cs with
  | '!' :: first :: cs => close Token.except first cs
  | '!' :: [] => none
  | first :: cs => close Token.within first cs
  | [] => none
where
  close (make : List (Char × Char) → Token) (first : Char) (cs : List Char) :
      Option (Token × List Char) :=
    match cs.dropWhile (· ≠ ']') with
    | [] => none
    | _ :: rest => some (make (ranges (first :: cs.takeWhile (· ≠ ']'))), rest)

theorem set?_length_lt {cs rest : List Char} {t : Token} (h : set? cs = some (t, rest)) :
    rest.length < cs.length := by
  have drop : ∀ (first : Char) (cs rest : List Char) (make : List (Char × Char) → Token),
      set?.close make first cs = some (t, rest) → rest.length < cs.length := by
    intro first cs rest make h
    have le := (List.dropWhile_sublist (l := cs) (· ≠ ']')).length_le
    unfold set?.close at h
    split at h
    · cases h
    · next heq =>
      cases h
      rw [heq] at le
      exact le
  unfold set? at h
  split at h
  · have := drop _ _ _ _ h; simp only [List.length_cons]; omega
  · cases h
  · have := drop _ _ _ _ h; simp only [List.length_cons]; omega
  · cases h

/-- Read a pattern from a position on, `previous` being the character before it. -/
def readFrom (position : Nat) (previous : Option Char) (cs : List Char) :
    Except PatternFault Pattern :=
  match cs with
  | [] => .ok []
  | '*' :: '*' :: '*' :: _ => .error ⟨position + 2, .stars⟩
  | '*' :: '*' :: cs =>
    if previous = none ∨ previous = some '/' then
      match cs with
      | [] => .ok [.deep]
      | '/' :: cs => (readFrom (position + 3) (some '/') cs).map (.deep :: ·)
      | _ :: _ => .error ⟨position + 2, .component⟩
    else .error ⟨position - 1, .component⟩
  | '*' :: cs => (readFrom (position + 1) (some '*') cs).map (.run :: ·)
  | '?' :: cs => (readFrom (position + 1) (some '?') cs).map (.any :: ·)
  | '[' :: cs =>
    match h : set? cs with
    | none => .error ⟨position, .range⟩
    | some (t, rest) =>
      have := set?_length_lt h
      (readFrom (position + 1 + (cs.length - rest.length)) (some ']') rest).map (t :: ·)
  | c :: cs => (readFrom (position + 1) (some c) cs).map (.char c :: ·)
termination_by cs.length

def Pattern.read (text : String) : Except PatternFault Pattern := readFrom 0 none text.toList

def inRanges (ranges : List (Char × Char)) (c : Char) : Bool :=
  ranges.any fun r => decide (r.1 ≤ c ∧ c ≤ r.2)

def Token.accepts (t : Token) (c : Char) : Bool :=
  match t with
  | char d => c = d
  | any | run | deep => true
  | within ranges => inRanges ranges c
  | except ranges => !inRanges ranges c

/-- Every place from the first marked one on. -/
def onward (marked : Bool) : List Bool → List Bool
  | [] => []
  | m :: ms => (marked || m) :: onward (marked || m) ms

/-- The places in a name that a token leads to from the marked ones. -/
def Token.advance (t : Token) (cs : List Char) (marks : List Bool) : List Bool :=
  match t with
  | run => onward false marks
  | t => false :: List.zipWith (fun c m => m && t.accepts c) cs marks

/-- Whether a pattern stands for a name: its tokens lead from the place before the name to the one
behind it. -/
def Pattern.matches (p : Pattern) (cs : List Char) : Bool :=
  let start := true :: List.replicate cs.length false
  (p.foldl (fun marks t => t.advance cs marks) start).getLast? == some true

def Token.char? : Token → Option Char
  | char c => some c
  | _ => none

/-- The name that a pattern without wildcards stands for. -/
def Pattern.literal? (p : Pattern) : Option String := (p.mapM Token.char?).map String.ofList

def Pattern.isDeep (p : Pattern) : Bool := p.contains .deep

end Glob

end ClassInference
