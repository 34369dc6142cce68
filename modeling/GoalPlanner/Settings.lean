import GoalPlanner.Decimal.Reader
import GoalPlanner.Log
import GoalPlanner.Plan.Find
import GoalPlanner.Value

/-!
# Settings

How planning, the resolution of conditions and logging are set up (`Settings`), read from a document whose sections and
keys may all be left out (`Settings.read`).
-/

namespace GoalPlanner

/-- What can be set. -/
structure Settings where
  options : Options
  /-- Conditions that cost more are left unknown until they matter. -/
  deferAbove : Option Float
  /-- The name of the least level that is logged, in capitals. -/
  level : String
  /-- Its weight. -/
  threshold : Nat

namespace Settings

/-- The settings in use unless others are given. -/
def usual : Settings := ⟨.usual, none, "INFO", 20⟩

/-- Why settings are refused. -/
inductive Error
  | notSection (name : String) (v : Value)
  | limit (v : Value)
  | trims (v : Value)
  | deferAbove (v : Value)
  | level (name : String)
  /-- A threshold beyond the range of floats. -/
  | tooLarge
  /-- No file at the place of the settings. -/
  | noFile (place : String)
  /-- A directory where a file is expected. -/
  | isDirectory
  /-- The path to the settings is too long. -/
  | tooLong
  /-- A document that is no mapping. -/
  | notDocument (place : String) (v : Value)

/-- What is said about a refusal, where anything is said. -/
def Error.message? : Error → Option String
  | notSection name v => s!"'{name}' section must be a mapping, got " ++ v.kindText
  | limit v => "planner.max_iterations must be a positive int, got " ++ v.literal
  | trims v => "planner.simplify_plans must be a bool, got " ++ v.literal
  | deferAbove v => "resolver.defer_cost_threshold must be a number or null, got " ++ v.literal
  | level name => s!"logging.level '{name}' is not a known logging level"
  | noFile place => s!"Missing config file: {place}"
  | notDocument place v => s!"Expected mapping at top of {place}, got " ++ v.kindText
  | tooLarge | isDirectory | tooLong => none

/-- The fields of a section; one that counts as false has none. -/
def readSection (doc : List (Value × Value)) (name : String) : Except Error (List (Value × Value)) :=
  let v := Value.getD name doc
  if v.isTrue then
    match v with
    | .mapping fields => .ok fields
    | v => .error (.notSection name v)
  else .ok []

/-- The limit on the steps of a search. -/
def readLimit (fields : List (Value × Value)) : Except Error Nat :=
  match Value.field? "max_iterations" fields with
  | none => .ok Options.usual.limit
  | some (.int n) => if 0 < n then .ok n.toNat else .error (.limit (.int n))
  | some v => .error (.limit v)

/-- Whether ways found are trimmed. -/
def readTrims (fields : List (Value × Value)) : Except Error Bool :=
  match Value.field? "simplify_plans" fields with
  | none => .ok Options.usual.trims
  | some (.bool b) => .ok b
  | some v => .error (.trims v)

/-- The options of planning. -/
def readOptions (fields : List (Value × Value)) : Except Error Options := do
  return ⟨← readLimit fields, ← readTrims fields⟩

/-- The cost above which conditions are deferred. -/
def readDeferAbove (fields : List (Value × Value)) : Except Error (Option Float) :=
  match Value.getD "defer_cost_threshold" fields with
  | .null => .ok none
  | .int n => (Decimal.ofInt? n).elim (.error .tooLarge) fun x => .ok (some x)
  | .float x => .ok (some x)
  | v => .error (.deferAbove v)

/-- The level of logging, by name and weight. -/
def readLevel (fields : List (Value × Value)) : Except Error (String × Nat) :=
  let name := Text.toCapitals (((Value.field? "level" fields).map Value.shown).getD usual.level)
  match Log.threshold? name with
  | some n => .ok (name, n)
  | none => .error (.level name)

/-- The settings that a document gives. -/
def read (doc : List (Value × Value)) : Except Error Settings := do
  let options ← readOptions (← readSection doc "planner")
  let deferAbove ← readDeferAbove (← readSection doc "resolver")
  let (level, threshold) ← readLevel (← readSection doc "logging")
  return ⟨options, deferAbove, level, threshold⟩

end Settings

end GoalPlanner
