import GoalPlanner.Domain

/-!
# Plans

A plan is a sequence of actions from a state to a goal. Carrying it out (`simulate`) requires every action to be
available when its turn comes; a sequence achieves a goal (`achieves`) if it can be carried out and ends where the goal
is reached.
-/

namespace GoalPlanner

variable {κ : Type} [Cost κ]

/-! ## Carrying out -/

/-- The state after some actions, if each is available when its turn comes. -/
def simulate (s : Facts) : List (Action κ) → Option Facts
  | [] => some s
  | a :: r => if a.available s then simulate (a.apply s) r else none

/-- Whether some actions can be carried out and lead to the goal. -/
def achieves (s : Facts) (as : List (Action κ)) (g : Goal κ) : Bool :=
  match simulate s as with
  | some t => g.reached t
  | none => false

theorem simulate_append (s : Facts) (as bs : List (Action κ)) :
    simulate s (as ++ bs) = (simulate s as).bind fun t => simulate t bs := by
  induction as generalizing s with
  | nil => rfl
  | cons a r ih =>
    simp only [List.cons_append, simulate]
    split
    · exact ih _
    · rfl

/-! ## Plans -/

/-- Actions chosen to reach a goal from a state. -/
structure Plan (κ : Type) [Cost κ] where
  actions : List (Action κ)
  goal : Goal κ
  start : Facts

namespace Plan

/-- What the actions cost together. -/
def cost (p : Plan κ) : κ := Cost.sum (p.actions.map Action.cost)

/-- What the actions are worth together. -/
def actionsValue (p : Plan κ) : κ := Cost.sum (p.actions.map Action.value)

/-- What is gained: the value of the goal and of the actions, less their cost. -/
def netValue (p : Plan κ) : κ := p.goal.value + p.actionsValue - p.cost

/-- Whether nothing is left to do. -/
def complete (p : Plan κ) : Bool := p.actions.isEmpty

/-- The shape of a plan: the names of its actions. -/
def shape (p : Plan κ) : List String := p.actions.map Action.name

/-- The text of a sum over the actions; over no actions it is the bare digit. -/
def sumText (p : Plan κ) (x : κ) : String := if p.complete then "0" else Cost.text x

/-- The plan on one line. -/
def summary (p : Plan κ) : String :=
  let steps := if p.complete then "<complete>" else " -> ".intercalate p.shape
  "Plan to " ++ p.goal.name ++ ": " ++ steps ++ " cost=" ++ Cost.twoPlaces p.cost
    ++ " netValue=" ++ Cost.twoPlaces p.netValue

/-- The plan, if wanted with a line for each action, two columns further in, and one for the start. A line further out
than the margin starts at the margin. -/
def info (p : Plan κ) (verbose : Bool) (indent : Int) : String :=
  let pad := "".pushn ' ' indent.toNat
  let details := p.actions.map (fun a => a.info (indent + 2).toNat) ++ [pad ++ "  start=" ++ p.start.stateText]
  "\n".intercalate ((pad ++ p.summary) :: if verbose then details else [])

end Plan

end GoalPlanner
