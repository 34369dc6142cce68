import GoalPlanner.Plan
import GoalPlanner.Plan.Ranking.Sort

/-!
# Ranking plans

Plans by what they gain, the most first; equal gains by the name of the goal (`rank`). Gains that are no numbers outrank
nothing and are outranked by nothing; where such plans come to stand is what sorting by runs makes of it.
-/

namespace GoalPlanner

variable {κ : Type} [Cost κ]

/-- Whether a plan gains more than another, or the same for a goal of an earlier name. -/
def Plan.outranks (p q : Plan κ) : Bool :=
  if -p.netValue == -q.netValue then decide (p.goal.name < q.goal.name) else decide (-p.netValue < -q.netValue)

/-- Plans by rank. -/
def rank (ps : List (Plan κ)) : List (Plan κ) := Ranking.sort Plan.outranks ps

end GoalPlanner
