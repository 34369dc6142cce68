import GoalPlanner.Log
import GoalPlanner.Plan.Trim

/-!
# Notes of the planner

What the planner reports while it works (`Note`), and the log record of each note (`Note.record`).
-/

namespace GoalPlanner

/-- Something that happened while planning. -/
inductive Note (κ : Type) [Cost κ]
  /-- A search was ended by its limit while entries were waiting. -/
  | cutShort (goal : String) (steps waiting : Nat)
  /-- A search found no plan. -/
  | noPlan (goal : String) (start : Facts) (steps : Nat)
  /-- A sweep dropped actions. -/
  | dropped (sweep : Sweep) (count : Nat) (goal : String)
  /-- A search found a plan. -/
  | found (plan : Plan κ) (steps : Nat)
  /-- The plan depends on a condition that is not known. -/
  | matters (condition : Name) (goal : String) (shapes : Nat)
  /-- The plan does not depend on the condition that is not known. -/
  | indifferent (condition : Name) (goal : String)
  /-- These plans tell which actions are in use. -/
  | pruning (plans : List (Plan κ))

/-- The name of a sweep in the log. -/
def Sweep.logName : Sweep → String
  | backward => "_backward_pass"
  | forward => "_forward_pass"

namespace Note

variable {κ : Type} [Cost κ]

/-- The part of the program that logs searches. -/
def searchLogger : String := "planning.astar"

/-- The part of the program that logs the choice among plans. -/
def choiceLogger : String := "planning.optimizing"

/-- The log record of a note. -/
def record : Note κ → Log.Record
  | cutShort goal steps waiting =>
    ⟨.warning, searchLogger,
      s!"A* planning to {goal} stopped after {steps} iterations with {waiting} open states"⟩
  | noPlan goal start steps =>
    ⟨.debug, searchLogger, s!"No plan to {goal} from " ++ start.stateText ++ s!" after {steps} iterations"⟩
  | dropped sweep count goal =>
    ⟨.debug, searchLogger, sweep.logName ++ s!" dropped {count} action(s) from plan to {goal}"⟩
  | found plan steps => ⟨.debug, searchLogger, "Found " ++ plan.summary ++ s!" after {steps} iterations"⟩
  | matters condition goal shapes =>
    ⟨.info, choiceLogger,
      s!"Condition '{condition}' affects the plan to {goal} ({shapes} distinct plans); evaluating it"⟩
  | indifferent condition goal =>
    ⟨.debug, choiceLogger, s!"Condition '{condition}' does not affect the plan to {goal}"⟩
  | pruning plans =>
    let details := if plans.isEmpty then "" else ":\n" ++ "\n".intercalate (plans.map fun p => p.info true 1)
    ⟨.info, choiceLogger, s!"{plans.length} plan(s) to consider in pruning" ++ details⟩

end Note

end GoalPlanner
