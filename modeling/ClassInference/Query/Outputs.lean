import ClassInference.Query.Datum

/-!
# Outputs

What a filter gives: values in order, and perhaps a fault that ends them. Nothing after a fault can
be seen, so that a fault is always the last thing.
-/

namespace ClassInference.Query

structure Outputs (α : Type) where
  values : List α
  fault : Option Datum

namespace Outputs

variable {α β : Type}

/-- No outputs at all. -/
def silent : Outputs α := ⟨[], none⟩

def one (a : α) : Outputs α := ⟨[a], none⟩

def failed (fault : Datum) : Outputs α := ⟨[], some fault⟩

/-- Neither values nor a fault. -/
def isEmpty (o : Outputs α) : Bool := o.values.isEmpty && o.fault.isNone

/-- First `o`, then the outputs of `next` unless `o` ends in a fault. -/
def append (o : Outputs α) (next : Unit → Outputs α) : Outputs α :=
  match o.fault with
  | some _ => o
  | none => ⟨o.values ++ (next ()).values, (next ()).fault⟩

/-- The outputs of `f` for each value in turn. -/
def andThen (o : Outputs α) (f : α → Outputs β) : Outputs β :=
  go o.values
where
  go : List α → Outputs β
    | [] => ⟨[], o.fault⟩
    | a :: as => (f a).append fun _ => go as

/-- Every value of the first with every value of the second, the first varying slowest. A fault of
the first shows only if there is something to go with it. -/
def cross {γ : Type} (first : Outputs α) (second : Outputs β) (f : α → β → Outputs γ) :
    Outputs γ :=
  if second.isEmpty then silent else first.andThen fun a => second.andThen (f a)

/-- The values alone where a fault does not matter. -/
def forgiving (optional : Bool) (o : Outputs α) : Outputs α :=
  if optional then { o with fault := none } else o

/-- All values, or the fault. -/
def toExcept (o : Outputs α) : Except Datum (List α) :=
  match o.fault with
  | some fault => .error fault
  | none => .ok o.values

/-- A result as outputs. -/
def ofExcept : Except Datum α → Outputs α
  | .ok a => one a
  | .error fault => failed fault

end Outputs

end ClassInference.Query
