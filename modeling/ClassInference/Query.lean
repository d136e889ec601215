import ClassInference.Query.Outputs
import ClassInference.Query.Term

/-!
# Filters

Running a filter over a value. The first operand of an operator varies slowest, and the accesses of
a path are settled before the path is walked: one walk for each choice of positions.
-/

namespace ClassInference.Query

open Json (Value)

private def faulty {α : Type} (parts : List String) : Outputs α :=
  .failed (.string (String.join parts))

/-! ### Functions -/

private def notOfKind {α : Type} (d : Datum) (kind : String) : Outputs α :=
  faulty ["cannot use ", d.text, " as ", kind]

private def iterable : String := "iterable (array or object)"

/-- The part of a datum at a position. -/
def Datum.at (d position : Datum) : Outputs Datum :=
  match d, position with
  | .object ms, .string k => .one ((ms.lookup k).getD .null)
  | .array ds, .integer n _ =>
    let place := if n < 0 then n + ds.length else n
    .one (if place < 0 then .null else ds[place.toNat]?.getD .null)
  | .object _, _ | .array _, _ => faulty ["cannot index ", d.text, " with ", position.text]
  | d, _ => notOfKind d iterable

def Datum.parts : Datum → Outputs Datum
  | .array ds => ⟨ds, none⟩
  | .object ms => ⟨ms.map Prod.snd, none⟩
  | d => notOfKind d iterable

/-- The place of an end of a slice. -/
private def place (length absent : Nat) : Option Datum → Except Datum Nat
  | none => .ok absent
  | some (.integer n _) => .ok (min length (if n < 0 then (n + length).toNat else n.toNat))
  | some d => .error (.string (String.join ["cannot use ", d.text, " as integer"]))

private def cut {α : Type} (as : List α) (start stop : Option Datum) : Except Datum (List α) := do
  let first ← place as.length 0 start
  let last ← place as.length as.length stop
  return (as.take last).drop first

def Datum.slice (d : Datum) (start stop : Option Datum) : Outputs Datum :=
  match d with
  | .array ds => .ofExcept ((cut ds start stop).map .array)
  | .string s => .ofExcept ((cut s.toList start stop).map fun cs => .string (String.ofList cs))
  | d => notOfKind d "rangeable (array or string)"

def Datum.length : Datum → Outputs Datum
  | .null => .one (.ofInt 0)
  | .bool b => faulty [(Datum.bool b).text, " has no length"]
  | .integer n fits =>
    let d := Datum.integer n fits
    .one (if n < 0 then d.opposite?.getD d else d)
  | .double x | .numeral _ x => .one (.double x.abs)
  | .string s => .one (.ofInt s.length)
  | .array ds => .one (.ofInt ds.length)
  | .object ms => .one (.ofInt ms.length)

def Datum.keys : Datum → Outputs Datum
  | .array ds => .one (.array ((List.range ds.length).map fun (i : Nat) => .ofInt i))
  | .object ms =>
    .one (.array (((ms.map Prod.fst).mergeSort fun a b => decide (a ≤ b)).map .string))
  | d => notOfKind d iterable

def Native.run : Native → Datum → Outputs Datum
  | .empty, _ => .silent
  | .error, d => .failed d
  | .length, d => d.length
  | .keys, d => d.keys
  | .negate, d => .one (.bool !d.isTrue)

def Arithmetic.run (op : Arithmetic) (a b : Datum) : Outputs Datum :=
  match op.result? a b with
  | some d => .one d
  | none => faulty [op.complaint a b]

/-- An object of one member. -/
def Datum.member (key value : Datum) : Outputs Datum :=
  match key with
  | .string k => .one (.object [(k, value)])
  | key => notOfKind key "string"

/-! ### Paths -/

/-- A way from a datum to parts of it. -/
inductive Access where
  | each
  | index (position : Datum)
  | slice (start stop : Option Datum)

/-- An access whose positions are settled. -/
structure Step where
  access : Access
  optional : Bool

def Access.run : Access → Datum → Outputs Datum
  | each, d => d.parts
  | index position, d => d.at position
  | slice start stop, d => d.slice start stop

/-- The data that steps lead to. -/
def walk : List Step → Datum → Outputs Datum
  | [], d => .one d
  | s :: rest, d => ((s.access.run d).forgiving s.optional).andThen (walk rest)

/-! ### Terms -/

/-- The first output becomes the fault; without outputs there is none, and `input` stays. -/
def raiseFirst (causes : Outputs Datum) (input : Datum) : Outputs Datum :=
  match causes.values, causes.fault with
  | d :: _, _ | [], some d => .failed d
  | [], none => .one input

/-- What counts as true among the outputs; a fault counts too. -/
def Outputs.truths (o : Outputs Datum) : Outputs Datum :=
  { o with values := o.values.filter (·.isTrue) }

mutual

/-- The outputs of a term for an input, its variables bound by `env`. -/
def Term.run (env : List (String × Datum)) (input : Datum) : Term → Outputs Datum
  | .identity => .one input
  | .literal d => .one d
  | .var name => ⟨(env.lookup name).toList, none⟩
  | .path head steps =>
    (head.run env input).andThen fun d => (steps.choices env input).andThen fun ss => walk ss d
  | .attempt body handler =>
    let o := body.run env input
    match o.fault with
    | some d => Outputs.append ⟨o.values, none⟩ fun _ => handler.run env d
    | none => o
  | .pipe first second => (first.run env input).andThen fun d => second.run env d
  | .bind first name body =>
    (first.run env input).andThen fun d => body.run ((name, d) :: env) input
  | .both first second => (first.run env input).append fun _ => second.run env input
  | .alternative first second =>
    let o := (first.run env input).truths
    if o.isEmpty then second.run env input else o
  | .disjunction first second =>
    (first.run env input).andThen fun a =>
      if a.isTrue then .one (.bool true)
      else (second.run env input).andThen fun b => .one (.bool b.isTrue)
  | .conjunction first second =>
    (first.run env input).andThen fun a =>
      if a.isTrue then (second.run env input).andThen fun b => .one (.bool b.isTrue)
      else .one (.bool false)
  | .compare op first second =>
    (first.run env input).cross (second.run env input) fun a b => .one (.bool (op.holds a b))
  | .arithmetic op first second =>
    (first.run env input).cross (second.run env input) op.run
  | .minus body =>
    (body.run env input).andThen fun d =>
      match d.opposite? with
      | some n => .one n
      | none => notOfKind d "number"
  | .collect body =>
    .ofExcept ((body.run env input).toExcept.map .array)
  | .single key value => (key.run env input).cross (value.run env input) Datum.member
  | .cond test yes no =>
    (test.run env input).andThen fun t => if t.isTrue then yes.run env input else no.run env input
  | .raise cause => raiseFirst (cause.run env input) input
  | .call f => f.run input

/-- The choices of positions for the accesses of a path, the last access varying fastest. -/
def Steps.choices (env : List (String × Datum)) (input : Datum) : Steps → Outputs (List Step)
  | .done => .one []
  | .each optional rest =>
    (rest.choices env input).andThen fun ss => .one (⟨.each, optional⟩ :: ss)
  | .index position optional rest =>
    (position.run env input).cross (rest.choices env input) fun d ss =>
      .one (⟨.index d, optional⟩ :: ss)
  | .slice start stop optional rest =>
    ((start.choices env input).cross (stop.choices env input) fun a b => .one (a, b)).cross
      (rest.choices env input) fun ab ss => .one (⟨.slice ab.1 ab.2, optional⟩ :: ss)

/-- The choices for an end of a slice. -/
def Bound.choices (env : List (String × Datum)) (input : Datum) : Bound → Outputs (Option Datum)
  | .absent => .one none
  | .given position => (position.run env input).andThen fun d => .one (some d)

end

/-! ### Running -/

/-- What keeps a filter from giving its outputs. -/
inductive Fault where
  | unreadable
  | failed (cause : Datum)
  /-- An output whose text is no JSON document. -/
  | noDocument (error : Json.SyntaxError)
deriving Repr

/-- The outputs of a filter for a value, each read from its text. The first fault takes all outputs
away. -/
def runFilter (filter : String) (input : Value) : Except Fault (List Value) :=
  match Term.read? filter with
  | none => .error .unreadable
  | some t => do
    let o := t.run [] (.ofValue input)
    let values ← o.values.mapM fun d => d.toValue.mapError .noDocument
    match o.fault with
    | some d => throw (.failed d)
    | none => return values

end ClassInference.Query
