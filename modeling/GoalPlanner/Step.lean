import GoalPlanner.Cost
import GoalPlanner.Facts
import GoalPlanner.Snapshot
import GoalPlanner.Text.Quoted

/-!
# Actions and goals

An action is available where its requirements are met and then brings its effects about; a goal is reached where its
requirements are met. Both carry names that are not empty, and no action has a negative cost: `Action.make?` and
`Goal.make?` refuse what would break this.
-/

namespace GoalPlanner

/-- Why a step cannot be built. -/
inductive StepError
  | unnamedAction
  | unnamedGoal
  /-- A negative cost, by the text of its number. -/
  | negativeCost (action cost : String)
  deriving DecidableEq, Repr

/-- The wording of the refusal. -/
def StepError.message : StepError → String
  | unnamedAction => "Action name must be non-empty"
  | unnamedGoal => "Goal name must be non-empty"
  | negativeCost action cost => s!"Action '{action}' has negative cost {cost}"

/-- The condition that holds once an action has been carried out. -/
def hasRun (action : String) : String := "hasRun_" ++ action

section

variable {κ : Type} [Cost κ]

/-! ## Actions -/

/-- Something that can be done where its requirements are met, and the effects that it is expected to have. -/
structure Action (κ : Type) [Cost κ] where
  name : String
  pre : Facts
  eff : Facts
  cost : κ
  value : κ
  named : name ≠ ""
  nonneg : ¬cost < 0

namespace Action

/-- An action, unless it has no name or a negative cost. -/
def make? (name : String) (pre eff : Facts) (cost value : κ) : Except StepError (Action κ) :=
  if hn : name = "" then .error .unnamedAction
  else if hc : cost < 0 then .error (.negativeCost name (Cost.text cost))
  else .ok ⟨name, pre, eff, cost, value, hn, hc⟩

/-- Whether the action can be carried out in a state. -/
def available (a : Action κ) (s : Facts) : Bool := s.meets a.pre

/-- The state expected after the action; what it does not mention stays as it was. -/
def apply (a : Action κ) (s : Facts) : Facts := s.merge a.eff

/-- The conditions that the action requires or brings about. -/
def conditions (a : Action κ) : List Name := a.pre.keys ++ a.eff.keys

/-- Whether two actions have the same name, requirements, effects, cost and value. -/
def same (a b : Action κ) : Bool :=
  a.name == b.name && a.pre.alike b.pre && a.eff.alike b.eff && a.cost == b.cost && a.value == b.value

/-- The action on one line. -/
def info (a : Action κ) (indent : Nat) : String :=
  "".pushn ' ' indent ++ a.name ++ " - pre=" ++ a.pre.braced ++ " effects=" ++ a.eff.braced
    ++ " cost=" ++ Cost.text a.cost ++ " value=" ++ Cost.text a.value

/-- Actions by name; of one name, in the order given. -/
def byName (as : List (Action κ)) : List (Action κ) := as.mergeSort fun a b => !decide (b.name < a.name)

end Action

/-! ## Goals -/

/-- Something to be reached, and what reaching it is worth. -/
structure Goal (κ : Type) [Cost κ] where
  name : String
  pre : Facts
  value : κ
  description : String
  named : name ≠ ""

namespace Goal

/-- A goal, unless it has no name. Without requirements of its own it requires the condition of its name to hold. -/
def make? (name : String) (pre : Option Facts) (value : κ) (description : String) : Except StepError (Goal κ) :=
  if hn : name = "" then .error .unnamedGoal
  else .ok ⟨name, pre.getD (Facts.uniform [name] .yes), value, description, hn⟩

/-- Whether the goal is reached in a state. -/
def reached (g : Goal κ) (s : Facts) : Bool := s.meets g.pre

/-- Whether two goals have the same name, requirements, value and description. -/
def same (g h : Goal κ) : Bool :=
  g.name == h.name && g.pre.alike h.pre && g.value == h.value && g.description == h.description

/-- The goal on one line. -/
def info (g : Goal κ) (indent : Nat) : String :=
  "".pushn ' ' indent ++ g.name ++ " - pre=" ++ g.pre.braced ++ " value=" ++ Cost.text g.value

/-- Goals by name. -/
def byName (gs : List (Goal κ)) : List (Goal κ) := gs.mergeSort fun g h => !decide (h.name < g.name)

end Goal

end

end GoalPlanner
