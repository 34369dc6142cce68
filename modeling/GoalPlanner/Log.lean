import GoalPlanner.Text.Letters.Capital

/-!
# Log records

What is logged (`Log.Record`), at which level, and by which thresholds records are kept (`Log.Record.passes`).
-/

namespace GoalPlanner.Log

/-- How weighty a record is. -/
inductive Level
  | debug
  | info
  | warning
  | error
  deriving DecidableEq, Repr, Inhabited

/-- The name of a level. -/
def Level.name : Level → String
  | debug => "DEBUG"
  | info => "INFO"
  | warning => "WARNING"
  | error => "ERROR"

/-- The weight of a level. -/
def Level.number : Level → Nat
  | debug => 10
  | info => 20
  | warning => 30
  | error => 40

/-- The names of thresholds with their weights. -/
def thresholds : List (String × Nat) :=
  [("CRITICAL", 50), ("FATAL", 50), ("ERROR", 40), ("WARN", 30), ("WARNING", 30), ("INFO", 20), ("DEBUG", 10),
    ("NOTSET", 0)]

/-- The weight of a named threshold; capitals and small letters count alike. -/
def threshold? (name : String) : Option Nat :=
  let name := Text.toCapitals name
  (thresholds.find? fun t => t.1 == name).map Prod.snd

/-- A line of a log. -/
structure Record where
  level : Level
  /-- The part of the program that speaks. -/
  logger : String
  message : String
  deriving DecidableEq, Repr

/-- Whether a record is weighty enough for a threshold. -/
def Record.passes (r : Record) (threshold : Int) : Bool := threshold ≤ r.level.number

/-! ## Setup -/

/-- The layout of lines in the log of the whole program. -/
def lineFormat : String := "%(asctime)s [%(levelname)s] %(name)s: %(message)s"

/-- How logging is set up: the layouts of the outlets, where they have one, and the threshold. -/
structure Setup where
  outlets : List (Option String)
  threshold : Int
  deriving DecidableEq, Repr

/-- A setup without outlets. -/
def Setup.bare : Setup := ⟨[], 30⟩

/-- Sets logging up with a threshold, which is none if its name is not known. An outlet is added only if there is none
yet; that happens even if the threshold is then refused. -/
def Setup.configure (s : Setup) (threshold : Option Int) : Bool × Setup :=
  let s := if s.outlets.isEmpty then { s with outlets := [some lineFormat] } else s
  match threshold with
  | some n => (true, { s with threshold := n })
  | none => (false, s)

end GoalPlanner.Log
