import ClassInference.Text.Blank
import ClassInference.Text.Split

/-!
# Layout

Flat source is indented again and wide lines are broken, in one pass over its characters. Braces,
parentheses and semicolons alone are structural; there is no look at the language. A line is broken
after an opening brace, a semicolon or an opening parenthesis that stands at the maximal width or
beyond, unless the line ends there anyway. A break after a parenthesis indents what follows by two
more levels until the parenthesis closes.
-/

namespace ClassInference

/-- One level of indentation, and the column from which lines are broken. -/
structure Layout where
  indent : String
  maxWidth : Nat
deriving Repr, DecidableEq

namespace Layout

/-- Four blanks, and one hundred columns. -/
def standard : Layout := ⟨"    ", 100⟩

/-- As many blanks a level. -/
def ofIndentWidth (width maxWidth : Nat) : Layout :=
  ⟨String.ofList (List.replicate width ' '), maxWidth⟩

/-- The parenthesis that a line was broken after: its nesting, and the depth to go back to. -/
structure Wrap where
  parenLevel : Nat
  depth : Nat
deriving Repr, DecidableEq

/-- Where the output stands. `pending` says that the indentation of the current line is still to be
written, `broken` that nothing has been written since a break inside a line. -/
structure State where
  depth : Nat
  column : Nat
  parenLevel : Nat
  wrap : Option Wrap
  pending : Bool
  broken : Bool
deriving Repr, DecidableEq

def State.start : State := ⟨0, 0, 0, none, false, false⟩

/-- The indentation of a line at some depth. -/
def margin (l : Layout) (depth : Nat) : List Char :=
  (List.replicate depth l.indent.toList).flatten

/-- Write a character, and the indentation before it if the line has none yet. -/
def put (l : Layout) (s : State) (c : Char) : State × List Char :=
  if s.pending then
    ({ s with column := s.depth * l.indent.toList.length + 1, pending := false, broken := false },
      l.margin s.depth ++ [c])
  else ({ s with column := s.column + 1, broken := false }, [c])

/-- Break the line after what has been written. -/
def breakLine (out : State × List Char) : State × List Char :=
  ({ out.1 with column := 0, pending := true, broken := true }, out.2 ++ ['\n'])

/-- Whether a structural character that has just been written forces a break. -/
def isWide (l : Layout) (s : State) (endsLine : Bool) : Bool := l.maxWidth ≤ s.column && !endsLine

def putOpenBrace (l : Layout) (s : State) (endsLine : Bool) : State × List Char :=
  let out := l.put s '{'
  let deeper := ({ out.1 with depth := out.1.depth + 1 }, out.2)
  if l.isWide deeper.1 endsLine then breakLine deeper else deeper

def putCloseBrace (l : Layout) (s : State) : State × List Char :=
  l.put { s with depth := s.depth - 1 } '}'

def putSemicolon (l : Layout) (s : State) (endsLine : Bool) : State × List Char :=
  let out := l.put s ';'
  if l.isWide out.1 endsLine then breakLine out else out

def putOpenParen (l : Layout) (s : State) (endsLine : Bool) : State × List Char :=
  let out := l.put s '('
  let level := out.1.parenLevel + 1
  let inside := { out.1 with parenLevel := level }
  if inside.wrap.isNone && l.isWide inside endsLine then
    breakLine ({ inside with wrap := some ⟨level, inside.depth⟩, depth := inside.depth + 2 }, out.2)
  else (inside, out.2)

def putCloseParen (l : Layout) (s : State) : State × List Char :=
  let out := l.put s ')'
  let restored := match out.1.wrap with
    | some w =>
      if w.parenLevel = out.1.parenLevel then { out.1 with wrap := none, depth := w.depth }
      else out.1
    | none => out.1
  ({ restored with parenLevel := restored.parenLevel - 1 }, out.2)

/-- One character of a line; `endsLine` says that only blanks follow. Blanks right after a break are
dropped. -/
def step (l : Layout) (s : State) (endsLine : Bool) (c : Char) : State × List Char :=
  if c = '{' then l.putOpenBrace s endsLine
  else if c = '}' then l.putCloseBrace s
  else if c = '(' then l.putOpenParen s endsLine
  else if c = ')' then l.putCloseParen s
  else if c = ';' then l.putSemicolon s endsLine
  else if Text.isBlank c && s.broken then (s, [])
  else l.put s c

def steps (l : Layout) (s : State) : List Char → State × List Char
  | [] => (s, [])
  | c :: rest =>
    let out := l.step s (Text.isBlankText rest) c
    let tail := l.steps out.1 rest
    (tail.1, out.2 ++ tail.2)

/-- One line with its line feed. A line of blanks is written empty. -/
def formatLine (l : Layout) (s : State) (line : List Char) : State × List Char :=
  if Text.isBlankText line then (s, ['\n'])
  else
    let out := l.steps { s with pending := true, broken := false, column := 0 } line
    (out.1, out.2 ++ ['\n'])

/-- Lines in order, the nesting carried from one to the next. -/
def formatLines (l : Layout) (s : State) : List (List Char) → State × List Char
  | [] => (s, [])
  | line :: rest =>
    let out := l.formatLine s line
    let tail := l.formatLines out.1 rest
    (tail.1, out.2 ++ tail.2)

/-- A line without the carriage return that ends it. -/
def stripReturn (line : List Char) : List Char :=
  if line.getLast? = some '\r' then line.dropLast else line

/-- The lines of a text, blank lines at its end left out. -/
def contentLines (text : List Char) : List (List Char) :=
  (((Text.lines text).reverse.dropWhile Text.isBlankText).reverse).map stripReturn

/-- Lay a text out. -/
def format (l : Layout) (text : String) : String :=
  String.ofList (l.formatLines .start (contentLines text.toList)).2

end Layout

end ClassInference
