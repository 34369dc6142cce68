import GoalPlanner.Failure
import GoalPlanner.Kind.Registry
import GoalPlanner.Table
import GoalPlanner.Value

/-!
# Blackboards

Where values are bound to names (`Blackboard.bind`), every value that was ever bound is listed, and flags are set. A
mapping, of whatever make, can be bound with a label, which then is a name that it answers to. The variables `it` and `all` stand for any
bound value: what is bound to them precisely comes first, then whatever was bound last (`Blackboard.value?`,
`Blackboard.sequence?`).
-/

namespace GoalPlanner

/-- A store of bound values and flags. -/
structure Blackboard where
  bindings : Table String Value
  /-- Every value bound so far, oldest first, with the label it was bound with. -/
  entries : List (Value × Option String)
  /-- The labels of the present bindings. -/
  labels : Table String String
  flags : Table String Bool

namespace Blackboard

/-- The blackboard on which nothing stands. -/
def empty : Blackboard := ⟨∅, [], ∅, ∅⟩

instance : Inhabited Blackboard := ⟨empty⟩

/-- The variable that values without a name are bound to. -/
def anonymous : String := "it"

/-- The variables that stand for any bound value. -/
def wildcards : List String := [anonymous, "all"]

/-! ## Writing -/

/-- The blackboard with a value bound to a name, with or without a label. Only mappings can have one, those of adopted
kinds among them, and a binding without a label takes the one of the binding before away. -/
def bind (b : Blackboard) (name : String) (v : Value) (label : Option String) (adopted : List KindLabel := []) :
    Except Failure Blackboard :=
  match label with
  | none =>
    .ok { b with
      bindings := b.bindings.set name v, entries := b.entries ++ [(v, none)], labels := b.labels.erase name }
  | some label =>
    if v.isMapping adopted then
      .ok { b with
        bindings := b.bindings.set name v
        entries := b.entries ++ [(v, some label)]
        labels := b.labels.set name label }
    else .error (.notLabelled v.kindName)

/-- The blackboard with a flag set. -/
def setFlag (b : Blackboard) (key : String) (v : Bool) : Blackboard := { b with flags := b.flags.set key v }

/-! ## Reading -/

/-- Every value bound so far, oldest first. -/
def objects (b : Blackboard) : List Value := b.entries.map Prod.fst

/-- The value that was bound last. -/
def last? (b : Blackboard) : Option Value := b.objects.getLast?

/-- The value bound to a name; nothing counts as none. -/
def bound? (b : Blackboard) (name : String) : Option Value :=
  match b.bindings.get? name with
  | some .null => none
  | v => v

/-- Whether a value answers to a name: its kind does, or it was bound with that label. -/
def fits (v : Value) (name : String) (label : Option String) : StateM Registry Bool := do
  if ← fun r => r.answers v.kind name then return true
  return label == some name

/-- The first of some values that answers to a name; nothing counts as none. -/
def firstFit (name : String) : List (Value × Option String) → StateM Registry (Option Value)
  | [] => return none
  | (v, label) :: rest => do
    if ← fits v name label then
      return match v with
        | .null => none
        | v => some v
    firstFit name rest

/-- The value that is meant by a variable and answers to a name. -/
def value? (b : Blackboard) (var name : String) : StateM Registry (Option Value) := do
  let precise ← match b.bound? var with
    | none => pure none
    | some v => do
      if ← fits v name (b.labels.get? var) then pure (some v) else pure none
  match precise with
  | some v => return some v
  | none => if wildcards.contains var then firstFit name b.entries.reverse else return none

/-- The sequence that is meant by a variable. -/
def sequence? (b : Blackboard) (var : String) : Option Value :=
  ((b.bound? var).filter Value.isSequence).or
    (if wildcards.contains var then b.objects.reverse.find? Value.isSequence else none)

/-! ## Text -/

/-- The entries of a table in the order of their keys. -/
def byKey {β : Type} (t : Table String β) : List (String × β) :=
  t.entries.mergeSort fun a b => !decide (b.1 < a.1)

/-- The kinds of the bound values, the number of values and the flags. -/
def info (b : Blackboard) : String :=
  let bound := (byKey b.bindings).map fun e => e.1 ++ "=" ++ e.2.kindName
  let flags := (byKey b.flags).map fun e => e.1 ++ "=" ++ (Value.bool e.2).literal
  "Blackboard(bindings=[" ++ ", ".intercalate bound ++ s!"], objects={b.entries.length}, conditions=["
    ++ ", ".intercalate flags ++ "])"

end Blackboard

end GoalPlanner
