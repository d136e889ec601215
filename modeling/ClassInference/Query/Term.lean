import ClassInference.Query.Arithmetic
import ClassInference.Query.Token

/-!
# Filter terms

The terms of the filter language and their grammar. Operators bind, from the loosest: pipe, comma,
alternative, `or`, `and`, equality, order, sum, product, remainder. A variable is bound by a pipe.
Accesses that follow a part in a row make one path.
-/

namespace ClassInference.Query

/-- Functions that are not made of others. -/
inductive Native where
  | empty
  | error
  | length
  | keys
  | negate
deriving Repr, DecidableEq

mutual

inductive Term where
  | identity
  | literal (d : Datum)
  | var (name : String)
  | path (head : Term) (steps : Steps)
  | attempt (body handler : Term)
  | pipe (first second : Term)
  | bind (first : Term) (name : String) (body : Term)
  | both (first second : Term)
  | alternative (first second : Term)
  | disjunction (first second : Term)
  | conjunction (first second : Term)
  | compare (op : Comparison) (first second : Term)
  | arithmetic (op : Arithmetic) (first second : Term)
  | minus (body : Term)
  | collect (body : Term)
  /-- An object of one member. -/
  | single (key value : Term)
  | cond (test yes no : Term)
  | raise (cause : Term)
  | call (f : Native)

/-- Accesses to parts of a datum, each to a part of the one before. An optional access drops its
faults. -/
inductive Steps where
  | done
  | each (optional : Bool) (rest : Steps)
  | index (position : Term) (optional : Bool) (rest : Steps)
  | slice (start stop : Bound) (optional : Bool) (rest : Steps)

/-- An end of a slice. -/
inductive Bound where
  | absent
  | given (position : Term)

end

mutual

/-- Every variable of the term is bound, by itself or by `names`. -/
def Term.isClosed (names : List String) : Term → Bool
  | .identity | .literal _ | .call _ => true
  | .var name => names.contains name
  | .path head steps => head.isClosed names && steps.isClosed names
  | .attempt a b | .pipe a b | .both a b | .alternative a b | .disjunction a b
  | .conjunction a b | .compare _ a b | .arithmetic _ a b | .single a b =>
    a.isClosed names && b.isClosed names
  | .cond a b c => a.isClosed names && b.isClosed names && c.isClosed names
  | .minus a | .collect a | .raise a => a.isClosed names
  | .bind a name b => a.isClosed names && b.isClosed (name :: names)

def Steps.isClosed (names : List String) : Steps → Bool
  | .done => true
  | .each _ rest => rest.isClosed names
  | .index position _ rest => position.isClosed names && rest.isClosed names
  | .slice start stop _ rest =>
    start.isClosed names && stop.isClosed names && rest.isClosed names

def Bound.isClosed (names : List String) : Bound → Bool
  | .absent => true
  | .given position => position.isClosed names

end

namespace Term

/-- A call by name; none if there is no function of that name with as many arguments. -/
def call? (name : String) (args : List Term) : Option Term :=
  match name, args with
  | "null", [] => some (literal .null)
  | "true", [] => some (literal (.bool true))
  | "false", [] => some (literal (.bool false))
  | "empty", [] => some (call .empty)
  | "error", [] => some (call .error)
  | "error", [f] => some (raise f)
  | "length", [] => some (call .length)
  | "keys", [] => some (call .keys)
  | "not", [] => some (call .negate)
  | "select", [f] => some (cond f identity (call .empty))
  | "map", [f] => some (collect (pipe (path identity (.each false .done)) f))
  | _, _ => none

/-! ### Grammar -/

/-- A binary operator: how tightly it binds, whether to the right, and the term it makes. -/
structure Operator where
  level : Nat
  toRight : Bool
  make : Term → Term → Term

def operator? : Token → Option Operator
  | .symbol "|" => some ⟨0, true, pipe⟩
  | .symbol "," => some ⟨1, false, both⟩
  | .symbol "//" => some ⟨3, false, alternative⟩
  | .word "or" => some ⟨4, false, disjunction⟩
  | .word "and" => some ⟨5, false, conjunction⟩
  | .symbol "==" => some ⟨6, false, compare .eq⟩
  | .symbol "!=" => some ⟨6, false, compare .ne⟩
  | .symbol "<" => some ⟨7, false, compare .lt⟩
  | .symbol "<=" => some ⟨7, false, compare .le⟩
  | .symbol ">" => some ⟨7, false, compare .gt⟩
  | .symbol ">=" => some ⟨7, false, compare .ge⟩
  | .symbol "+" => some ⟨8, false, arithmetic .add⟩
  | .symbol "-" => some ⟨8, false, arithmetic .sub⟩
  | .symbol "*" => some ⟨9, false, arithmetic .mul⟩
  | .symbol "/" => some ⟨9, false, arithmetic .div⟩
  | .symbol "%" => some ⟨10, false, arithmetic .rem⟩
  | _ => none

abbrev Grammar (α : Type) := StateT (List Token) Option α

namespace Grammar

def peek : Grammar (Option Token) := do return (← get).head?

def advance : Grammar Unit := modify List.tail

def next : Grammar Token := do
  match ← get with
  | [] => failure
  | t :: rest =>
    set rest
    return t

def expect (t : Token) : Grammar Unit := do
  if (← next) = t then return else failure

/-- Read `t` if it comes next. -/
def accept (t : Token) : Grammar Bool := do
  if (← peek) = some t then
    advance
    return true
  else return false

/-- Read all marks of an optional part; whether there is one. -/
def acceptMarks : Grammar Bool := do
  let found := (← peek) = some (.symbol "?")
  modify (List.dropWhile (· = .symbol "?"))
  return found

/-- The words that stand for no function. -/
def reserved : List String :=
  ["and", "or", "as", "if", "then", "elif", "else", "end", "try", "catch", "def", "reduce",
    "foreach", "label", "import", "include"]

mutual

/-- A term whose operators bind at least as tightly as `level`. -/
def term (fuel : Nat) (comma : Bool) (level : Nat) : Grammar Term :=
  match fuel with
  | 0 => failure
  | n + 1 => do
    let head ← postfixed n
    operators n comma level head

/-- The operators after a first operand. -/
def operators (fuel : Nat) (comma : Bool) (level : Nat) (left : Term) : Grammar Term :=
  match fuel with
  | 0 => failure
  | n + 1 => do
    match ← peek with
    | none => return left
    | some (.word "as") =>
      if 0 < level then return left
      else
        advance
        match ← next with
        | .variable name =>
          expect (.symbol "|")
          return bind left name (← term n comma 0)
        | _ => failure
    | some t =>
      match operator? t with
      | none => return left
      | some op =>
        if op.level < level || (t = .symbol "," && !comma) then return left
        else
          advance
          let right ← term n comma (if op.toRight then op.level else op.level + 1)
          operators n comma level (op.make left right)

/-- A first part with all accesses that follow it. -/
def postfixed (fuel : Nat) : Grammar Term :=
  match fuel with
  | 0 => failure
  | n + 1 => do
    match ← peek with
    | some (.field _) => return path identity (← steps n)
    | some (.symbol ".") =>
      advance
      match ← peek with
      | some (.text name) =>
        advance
        return path identity (.index (literal (.string name)) (← acceptMarks) (← steps n))
      | _ => accessed n identity
    | _ => accessed n (← primary n)

/-- A part that may be optional as a whole, with the accesses that follow it. -/
def accessed (fuel : Nat) (head : Term) : Grammar Term :=
  match fuel with
  | 0 => failure
  | n + 1 => do
    let head := if ← acceptMarks then attempt head (call .empty) else head
    match ← steps n with
    | .done => return head
    | steps => return path head steps

def steps (fuel : Nat) : Grammar Steps :=
  match fuel with
  | 0 => failure
  | n + 1 => do
    match ← peek with
    | some (.field name) =>
      advance
      return .index (literal (.string name)) (← acceptMarks) (← steps n)
    | some (.symbol "[") =>
      advance
      bracket n
    | some (.symbol ".") =>
      advance
      match ← next with
      | .text name => return .index (literal (.string name)) (← acceptMarks) (← steps n)
      | _ => failure
    | _ => return .done

/-- An access in brackets, the opening bracket having been read, and those after it. -/
def bracket (fuel : Nat) : Grammar Steps :=
  match fuel with
  | 0 => failure
  | n + 1 => do
    if ← accept (.symbol "]") then return .each (← acceptMarks) (← steps n)
    else if ← accept (.symbol ":") then
      let stop ← term n true 0
      expect (.symbol "]")
      return .slice .absent (.given stop) (← acceptMarks) (← steps n)
    else
      let start ← term n true 0
      if ← accept (.symbol "]") then return .index start (← acceptMarks) (← steps n)
      else
        expect (.symbol ":")
        if ← accept (.symbol "]") then
          return .slice (.given start) .absent (← acceptMarks) (← steps n)
        else
          let stop ← term n true 0
          expect (.symbol "]")
          return .slice (.given start) (.given stop) (← acceptMarks) (← steps n)

def primary (fuel : Nat) : Grammar Term :=
  match fuel with
  | 0 => failure
  | n + 1 => do
    match ← next with
    | .number n => return literal n.datum
    | .text s => return literal (.string s)
    | .variable name => return var name
    | .symbol "-" => return minus (← postfixed n)
    | .symbol "(" =>
      let t ← term n true 0
      expect (.symbol ")")
      return t
    | .symbol "[" =>
      if ← accept (.symbol "]") then return literal (.array [])
      else
        let t ← term n true 0
        expect (.symbol "]")
        return collect t
    | .symbol "\x7b" =>
      if ← accept (.symbol "\x7d") then return literal (.object [])
      else members n
    | .word "if" =>
      let test ← term n true 0
      expect (.word "then")
      let yes ← term n true 0
      return cond test yes (← otherwise n)
    | .word "try" =>
      let body ← postfixed n
      if ← accept (.word "catch") then return attempt body (← postfixed n)
      else return attempt body (call .empty)
    | .word name =>
      if reserved.contains name then failure
      else
        let args ← if ← accept (.symbol "(") then arguments n else pure []
        match call? name args with
        | some t => return t
        | none => failure
    | _ => failure

/-- What follows the first branch of a conditional. -/
def otherwise (fuel : Nat) : Grammar Term :=
  match fuel with
  | 0 => failure
  | n + 1 => do
    match ← next with
    | .word "end" => return identity
    | .word "else" =>
      let no ← term n true 0
      expect (.word "end")
      return no
    | .word "elif" =>
      let test ← term n true 0
      expect (.word "then")
      let yes ← term n true 0
      return cond test yes (← otherwise n)
    | _ => failure

def arguments (fuel : Nat) : Grammar (List Term) :=
  match fuel with
  | 0 => failure
  | n + 1 => do
    let t ← term n true 0
    if ← accept (.symbol ")") then return [t]
    else
      expect (.symbol ";")
      return t :: (← arguments n)

/-- The members of an object up to its closing brace, added up from the left. A comma may follow the
last one. -/
def members (fuel : Nat) : Grammar Term :=
  match fuel with
  | 0 => failure
  | n + 1 => do
    let first ← member n
    moreMembers n first

def moreMembers (fuel : Nat) (left : Term) : Grammar Term :=
  match fuel with
  | 0 => failure
  | n + 1 => do
    if ← accept (.symbol "\x7d") then return left
    else
      expect (.symbol ",")
      if ← accept (.symbol "\x7d") then return left
      else
        let right ← member n
        moreMembers n (arithmetic .add left right)

/-- A key and its value; a name by itself takes the field or the variable of that name. -/
def member (fuel : Nat) : Grammar Term :=
  match fuel with
  | 0 => failure
  | n + 1 => do
    match ← next with
    | .variable name =>
      if ← accept (.symbol ":") then return single (var name) (← term n false 0)
      else return single (literal (.string name)) (var name)
    | .word name | .text name =>
      let key := literal (.string name)
      if ← accept (.symbol ":") then return single key (← term n false 0)
      else return single key (path identity (.index key false .done))
    | .symbol "(" =>
      let key ← term n true 0
      expect (.symbol ")")
      expect (.symbol ":")
      return single key (← term n false 0)
    | _ => failure

end

end Grammar

/-- Read a filter; none if it is no term, calls an unknown function or has a free variable. Between
two tokens at most a handful of rules are entered. -/
def read? (filter : String) : Option Term := do
  let tokens ← Token.all? filter
  let (t, rest) ← (Grammar.term (8 * (tokens.length + 1)) true 0).run tokens
  if rest.isEmpty && t.isClosed [] then some t else none

end Term

end ClassInference.Query
