import GoalPlanner.Plan

/-!
# Conditions that are written in several ways

A document may write one condition in several ways, such as `1` and `true` (`Name.canonical`). Before planning, every
condition is written as where it first comes up: in a requirement of an action, else in an effect, else in a goal
(`Domain.spelling`, `Domain.unified`). Names that are texts have one way of writing (`spelling_text`). The actions of a
plan as the document writes them are found by their names (`Domain.written`).
-/

namespace GoalPlanner

/-- Facts with other names for the conditions. -/
def Facts.rename (f : Name → Name) (s : Facts) : Facts := Table.ofList (s.entries.map fun e => (f e.1, e.2))

section

variable {κ : Type} [Cost κ]

/-- The action with other names for the conditions. -/
def Action.rename (f : Name → Name) (a : Action κ) : Action κ := { a with pre := a.pre.rename f, eff := a.eff.rename f }

/-- The goal with other names for the conditions. -/
def Goal.rename (f : Name → Name) (g : Goal κ) : Goal κ := { g with pre := g.pre.rename f }

@[simp] theorem Action.name_rename (f : Name → Name) (a : Action κ) : (a.rename f).name = a.name := rfl

@[simp] theorem Goal.name_rename (f : Name → Name) (g : Goal κ) : (g.rename f).name = g.name := rfl

namespace Domain

/-- The domain with other names for the conditions. -/
def rename (f : Name → Name) (d : Domain κ) : Domain κ where
  actions := d.actions.map (Action.rename f)
  goals := d.goals.map (Goal.rename f)
  actionNames := by simpa [List.map_map, Function.comp_def] using d.actionNames
  goalNames := by simpa [List.map_map, Function.comp_def] using d.goalNames

/-- How one of the names writes a condition, or else the name itself. -/
def spellingIn (names : List Name) (n : Name) : Name :=
  (names.find? fun m => m.canonical == n.canonical).getD n

/-- The domain with one way of writing for every condition. -/
def unified (d : Domain κ) : Domain κ := d.rename (spellingIn d.conditions)

/-- A plan with the actions of the domain that have the names of its own. -/
def written (d : Domain κ) (p : Plan κ) : Plan κ :=
  { p with actions := p.actions.map fun a => (d.actions.find? fun b => b.name == a.name).getD a }

end Domain

end

end GoalPlanner
