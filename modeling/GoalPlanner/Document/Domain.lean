import GoalPlanner.Document.Fields
import GoalPlanner.Plan.ClosedWorld

/-!
# Documents of planning domains

A document lists actions and goals and may give a state of the world (`readDomain`). Entries are read one after the
other; the first that cannot be read decides how the document is refused. Names are compared as texts, and a name that
two actions or two goals share is refused even if their entries are the same.
-/

namespace GoalPlanner

/-- What a document of a planning domain gives. -/
structure Loaded where
  domain : Domain Float
  state : Option Facts
  source : Option String

namespace Document

/-- The fields of an entry that must have a name; `otherwise` says how other things with a name fail. -/
def namedFields (part : String) (otherwise : DocumentError) (entry : Value) :
    Except DocumentError (List (Value × Value)) :=
  match entry with
  | .mapping fields => if (Value.field? "name" fields).isSome then .ok fields else .error (.unnamed part entry)
  | .list items | .tuple items =>
    if items.any (Value.sameKey (.text "name")) then .error otherwise else .error (.unnamed part entry)
  | .text s => if (s.splitOn "name").length > 1 then .error otherwise else .error (.unnamed part entry)
  | _ => .error .misplaced

/-- A number that may be left out. -/
def readOptional (key : String) (fields : List (Value × Value)) : Except DocumentError Float :=
  match Value.field? key fields with
  | some v => readNumber v
  | none => .ok 0

/-- The text of a field that may be left out. -/
def readText (key : String) (fields : List (Value × Value)) : String :=
  ((Value.field? key fields).map Value.shown).getD ""

/-- An action. -/
def readAction (entry : Value) : Except DocumentError (Action Float) := do
  let fields ← namedFields "Action" .misplaced entry
  let pre ← readSpec (Value.getD "preconditions" fields) (Value.getD "pre" fields)
  let eff ← readSpec (Value.getD "effects" fields) (Value.getD "post" fields)
  let cost ← readOptional "cost" fields
  let value ← readOptional "value" fields
  (Action.make? (readText "name" fields) pre eff cost value).mapError .step

/-- The requirements of a goal, if it gives any in either spelling. -/
def readGoalSpec (explicit names : Value) : Except DocumentError (Option Facts) :=
  match explicit, names with
  | .null, .null => .ok none
  | _, _ => (readSpec explicit names).map some

/-- A goal. -/
def readGoal (entry : Value) : Except DocumentError (Goal Float) := do
  let fields ← namedFields "Goal" .noFields entry
  let pre ← readGoalSpec (Value.getD "preconditions" fields) (Value.getD "pre" fields)
  let value ← readOptional "value" fields
  (Goal.make? (readText "name" fields) pre value (readText "description" fields)).mapError .step

/-- The members of a list that it holds more than once, each once, in increasing order. -/
def repeatedNames (names : List String) : List String :=
  (names.filter fun n => 1 < names.count n).eraseDups.mergeSort fun a b => !decide (b < a)

/-- Refuses names that are shared. -/
def checkNames (part : String) (source : Option String) (names : List String) : Except DocumentError Unit :=
  let shared := repeatedNames names
  if shared.isEmpty then .ok () else .error (.repeated part shared source)

/-- The state of the world that a document gives, if any. -/
def readState : Value → Except DocumentError (Option Facts)
  | .null => .ok none
  | v => (readSpec v .null).map some

/-- The planning domain that a document's fields give. -/
def readDomain (fields : List (Value × Value)) (source : Option String) : Except DocumentError Loaded := do
  let actions ← (← listed (Value.getD "actions" fields)).mapM readAction
  let goals ← (← listed (Value.getD "goals" fields)).mapM readGoal
  checkNames "action" source (actions.map Action.name)
  checkNames "goal" source (goals.map Goal.name)
  let state ← readState (Value.getD "world_state" fields)
  let domain ← (Domain.make? actions goals).mapError .domain
  return ⟨domain, state, source⟩

end Document

end GoalPlanner
