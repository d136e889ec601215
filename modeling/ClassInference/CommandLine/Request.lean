/-!
# Requests

What a command line asks for, and reading it. Arguments are taken one after the other. A setting
takes the argument after it as its value, `--input` as many as follow, until an argument starts
with a dash; a value that is attached to its setting is the only one. Everything may be said once,
inputs as often as wanted.
-/

namespace ClassInference

namespace CommandLine

inductive Task where
  | generate
  | inspect
deriving Repr, DecidableEq

structure Request where
  task : Task
  inputs : List String
  /-- One document a line. -/
  byLine : Bool
  pointer : Option String
  filter : Option String
  config : Option String
  package : Option String
  rootClass : Option String
  dialect : Option String
  maxWidth : Option Nat
  indentWidth : Option Nat
  output : Option String
  /-- Show the request and do nothing. -/
  idle : Bool
  verbose : Bool
deriving Repr, DecidableEq

/-- Why a command line asks for nothing. -/
inductive Stop where
  | usage
  | help
  | version
deriving Repr, DecidableEq

def Stop.exitCode : Stop → Nat
  | usage => 2
  | help | version => 0

/-- What takes no value. -/
inductive Switch where
  | byLine
  | idle
  | verbose
deriving Repr, DecidableEq

/-- What takes a value. -/
inductive Setting where
  | input
  | pointer
  | filter
  | config
  | package
  | rootClass
  | dialect
  | maxWidth
  | indentWidth
  | output
deriving Repr, DecidableEq

inductive Argument where
  | switch (s : Switch)
  | setting (s : Setting)
  | stop (s : Stop)
deriving Repr, DecidableEq

namespace Argument

/-- The arguments in front of a task. -/
def opening : List (List String × Argument) := [
  (["--verbose", "-v"], .switch .verbose),
  (["--help", "-h"], .stop .help),
  (["--version", "-V"], .stop .version)]

/-- The arguments of a task. -/
def ofTask : List (List String × Argument) := [
  (["--input", "-i"], .setting .input),
  (["--ndjson"], .switch .byLine),
  (["--json-pointer"], .setting .pointer),
  (["--jq", "--jq-expr"], .setting .filter),
  (["--config", "-c"], .setting .config),
  (["--namespace"], .setting .package),
  (["--root-class"], .setting .rootClass),
  (["--syntax"], .setting .dialect),
  (["--max-width"], .setting .maxWidth),
  (["--indent-width"], .setting .indentWidth),
  (["--out", "-o"], .setting .output),
  (["--no-op"], .switch .idle),
  (["--verbose", "-v"], .switch .verbose),
  (["--help", "-h"], .stop .help)]

def find? (known : List (List String × Argument)) (name : String) : Option Argument :=
  (known.find? fun e => e.1.contains name).map Prod.snd

end Argument

/-- The number that digits stand for; one plus sign may go before them. -/
def natural? (text : String) : Option Nat :=
  let digits := match text.toList with
    | '+' :: cs => cs
    | cs => cs
  if digits = [] ∨ ¬ digits.all Char.isDigit then none
  else
    let n := digits.foldl (fun n c => 10 * n + (c.toNat - '0'.toNat)) 0
    if n < Nat.pow 2 64 then some n else none

namespace Request

def empty (task : Task) : Request where
  task := task
  inputs := []
  byLine := false
  pointer := none
  filter := none
  config := none
  package := none
  rootClass := none
  dialect := none
  maxWidth := none
  indentWidth := none
  output := none
  idle := false
  verbose := false

/-- Turn a switch on, unless it is on. -/
def turnOn (r : Request) : Switch → Except Stop Request
  | .byLine => if r.byLine then .error .usage else .ok { r with byLine := true }
  | .idle => if r.idle then .error .usage else .ok { r with idle := true }
  | .verbose => if r.verbose then .error .usage else .ok { r with verbose := true }

/-- A value where there is none yet. -/
def once {α : Type} (old : Option α) (value : α) : Except Stop (Option α) :=
  if old.isSome then .error .usage else .ok (some value)

def asPath (text : String) : Except Stop String :=
  if text.isEmpty then .error .usage else .ok text

def asNatural (text : String) : Except Stop Nat :=
  match natural? text with
  | some n => .ok n
  | none => .error .usage

/-- Give a setting a value. -/
def assign (r : Request) (s : Setting) (text : String) : Except Stop Request := do
  match s with
  | .input => return { r with inputs := r.inputs ++ [text] }
  | .pointer => return { r with pointer := ← once r.pointer text }
  | .filter => return { r with filter := ← once r.filter text }
  | .config => return { r with config := ← once r.config (← asPath text) }
  | .package => return { r with package := ← once r.package text }
  | .rootClass => return { r with rootClass := ← once r.rootClass text }
  | .dialect => return { r with dialect := ← once r.dialect text }
  | .maxWidth => return { r with maxWidth := ← once r.maxWidth (← asNatural text) }
  | .indentWidth => return { r with indentWidth := ← once r.indentWidth (← asNatural text) }
  | .output => return { r with output := ← once r.output (← asPath text) }

end Request

/-! ### Reading -/

/-- What the next value may go to. -/
inductive Pending where
  | nothing
  /-- A setting that still lacks its value. -/
  | needed (s : Setting)
  /-- A setting that may take further values. -/
  | more (s : Setting)
deriving Repr, DecidableEq

/-- An argument must not come where a value is needed. -/
def Pending.settled : Pending → Except Stop Unit
  | needed _ => .error .usage
  | _ => .ok ()

/-- The name and the attached value of a long argument. -/
def splitLong (text : List Char) : String × Option String :=
  match text.dropWhile (· ≠ '=') with
  | [] => (String.ofList text, none)
  | _ :: value => (String.ofList (text.takeWhile (· ≠ '=')), some (String.ofList value))

/-- Take a long argument. -/
def takeLong (known : List (List String × Argument)) (r : Request) (text : List Char) :
    Except Stop (Request × Pending) :=
  match splitLong text with
  | (name, value) =>
    match Argument.find? known name, value with
    | some (.switch s), none => do return (← r.turnOn s, .nothing)
    | some (.stop s), none => .error s
    | some (.setting s), none => .ok (r, .needed s)
    | some (.setting s), some value => do return (← r.assign s value, .nothing)
    | _, _ => .error .usage

/-- Take the letters behind one dash. What follows the letter of a setting is its value. -/
def takeShort (known : List (List String × Argument)) (r : Request) :
    List Char → Except Stop (Request × Pending)
  | [] => .ok (r, .nothing)
  | c :: cs =>
    match Argument.find? known (String.ofList ['-', c]), cs with
    | some (.switch s), cs => do takeShort known (← r.turnOn s) cs
    | some (.stop s), _ => .error s
    | some (.setting s), [] => .ok (r, .needed s)
    | some (.setting s), '=' :: value => do return (← r.assign s (String.ofList value), .nothing)
    | some (.setting s), value => do return (← r.assign s (String.ofList value), .nothing)
    | none, _ => .error .usage

/-- Take an argument that starts with a dash. -/
def takeDashed (known : List (List String × Argument)) (r : Request) (text : String) :
    Except Stop (Request × Pending) :=
  match text.toList with
  | '-' :: '-' :: _ => takeLong known r text.toList
  | _ :: cs => takeShort known r cs
  | [] => .error .usage

/-- A dash alone is a value. -/
def isDashed (text : String) : Bool := text.toList.head? = some '-' && text ≠ "-"

/-- Give a value to what waits for one. -/
def takeValue (r : Request) (text : String) : Pending → Except Stop (Request × Pending)
  | .nothing => .error .usage
  | .needed s | .more s => do
    return (← r.assign s text, if s = .input then .more s else .nothing)

/-- Read the arguments of a task. Nothing may follow two dashes. -/
def readTask (r : Request) (pending : Pending) : List String → Except Stop Request
  | [] => do
    pending.settled
    if r.inputs = [] then throw .usage else return r
  | "--" :: rest => do
    pending.settled
    if r.inputs = [] ∨ rest ≠ [] then throw .usage else return r
  | text :: rest => do
    if isDashed text then
      pending.settled
      let (r, pending) ← takeDashed Argument.ofTask r text
      readTask r pending rest
    else
      let (r, pending) ← takeValue r text pending
      readTask r pending rest

/-- What stands behind the word `help`: at most one word that can be helped with. -/
def readHelp : List String → Stop
  | [] | ["generate"] | ["inspect"] | ["help"] => .help
  | _ => .usage

/-- Read what follows the word for a task. What was said before that word may be said again. -/
def readAfter (said : Request) (task : Task) (arguments : List String) : Except Stop Request :=
  (readTask (.empty task) .nothing arguments).map fun r =>
    { r with verbose := r.verbose || said.verbose }

/-- Read a command line from its start, `r` being what has been said so far. -/
def readOpening (r : Request) : List String → Except Stop Request
  | [] => .error .usage
  | "generate" :: rest => readAfter r .generate rest
  | "inspect" :: rest => readAfter r .inspect rest
  | "help" :: rest => .error (readHelp rest)
  | text :: rest => do
    if isDashed text then
      let (r, _) ← takeDashed Argument.opening r text
      readOpening r rest
    else throw .usage

/-- Read a command line. -/
def Request.read (arguments : List String) : Except Stop Request :=
  readOpening (.empty .generate) arguments

end CommandLine

end ClassInference
