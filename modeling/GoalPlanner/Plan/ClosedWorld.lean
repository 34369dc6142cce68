import GoalPlanner.Plan.Choice
import GoalPlanner.Value

/-!
# Planning over given facts

A resolver over facts that do not change (`Resolver.ofFacts`), and facts completed so that every known condition has a
value (`complete`): what nobody set does not hold. Requests may list things that are no actions; they are refused before
anything is resolved (`checkActions`).
-/

namespace GoalPlanner

/-- Facts with a value for every known condition: the default where they give none. -/
def complete (known : List Name) (default : Truth) (facts : Facts) : Facts :=
  (Facts.uniform known default).merge facts

theorem get?_complete (known : List Name) (default : Truth) (facts : Facts) (n : Name) :
    (complete known default facts).get? n = (facts.get? n).or ((Facts.uniform known default).get? n) :=
  Table.get?_merge _ _ _

/-- The resolver over given facts; any other condition is not known. -/
def Resolver.ofFacts {σ : Type} (facts : Facts) : Resolver σ where
  state := return facts
  ask c := return (facts.get? c).getD .unknown

section

variable {κ : Type} [Cost κ]

/-- Something listed where actions are asked for. -/
inductive Candidate (κ : Type) [Cost κ]
  | action (a : Action κ)
  | goal (g : Goal κ)
  | value (v : Value)

/-- One requirement inside the text of a goal. -/
def requirementText (e : Name × Truth) : String := Failure.nameLiteral e.1 ++ ": " ++ Value.truthLiteral e.2

/-- A goal with all its parts. -/
def Goal.literal (g : Goal κ) : String :=
  "Goal(name=" ++ Text.quoted g.name ++ ", preconditions=\x7b"
    ++ ", ".intercalate (g.pre.entries.map requirementText) ++ "\x7d, value=" ++ Cost.text g.value
    ++ ", description=" ++ Text.quoted g.description ++ ")"

/-- The candidate as an action, or the reason why it is none. -/
def Candidate.action? : Candidate κ → Except Failure (Action κ)
  | action a => .ok a
  | goal g => .error (.notAnAction "Goal" g.literal)
  | value v => .error (.notAnAction v.kindName v.literal)

/-- The candidates as actions, if all are. -/
def checkActions (cs : List (Candidate κ)) : Except Failure (List (Action κ)) := cs.mapM Candidate.action?

end

end GoalPlanner
