import GoalPlanner.Effect
import GoalPlanner.Plan.Find
import GoalPlanner.Plan.Ranking

/-!
# Choosing plans

Planning from a state that a resolver supplies (`Resolver`). A state in which one condition is not known is planned from
as it is and with the condition decided in either way; only if the shapes of these plans differ is the resolver asked
for the condition (`deliberate`, `planToGoal`). Plans to all goals of a domain are ranked (`plansToGoals`,
`bestPlan`), and the actions that none of them uses can be dropped (`prune`).
-/

namespace GoalPlanner

/-- What planning learns about the world: a state, and the truth of single conditions when it asks for them. -/
structure Resolver (σ : Type) where
  state : Effect σ Facts
  ask : Name → Effect σ Truth

section

variable {κ : Type} [Cost κ]

/-! ## One goal -/

/-- What planning from a state comes to before anything is asked. -/
inductive Verdict (κ : Type) [Cost κ]
  /-- The plan, or that there is none. -/
  | settled (plan : Option (Plan κ))
  /-- The plan depends on this condition. -/
  | ask (condition : Name)
  /-- More than one condition is not known. -/
  | unsupported (conditions : List Name)

/-- A verdict and what was noted on the way to it. -/
structure Deliberation (κ : Type) [Cost κ] where
  verdict : Verdict κ
  notes : List (Note κ)

/-- The shapes of the plans that some searches found, each once; that there is no plan is a shape too. -/
def shapes (fs : List (Finding κ)) : List (Option (List String)) :=
  (fs.map fun f => f.plan.map Plan.shape).eraseDups

/-- Plans from a state, and from both variants if one condition is not known. -/
def deliberate (o : Options) (start : Facts) (actions : List (Action κ)) (g : Goal κ) : Deliberation κ :=
  let direct := find o start actions g
  match start.unknowns with
  | [] => ⟨.settled direct.plan, direct.notes⟩
  | [c] =>
    let variants := (start.variants c).map fun s => find o s actions g
    let found := shapes (variants ++ [direct])
    let notes := direct.notes ++ variants.flatMap Finding.notes
    if 1 < found.length then ⟨.ask c, notes ++ [.matters c g.name found.length]⟩
    else ⟨.settled direct.plan, notes ++ [.indifferent c g.name]⟩
  | cs => ⟨.unsupported cs, direct.notes⟩

end

section

variable {σ κ : Type} [Cost κ]

/-- Logs notes. -/
def logNotes (notes : List (Note κ)) : Effect σ Unit := Effect.logAll (notes.map Note.record)

/-- The plan to a goal from the state that a resolver supplies. -/
def planToGoal (r : Resolver σ) (o : Options) (actions : List (Action κ)) (g : Goal κ) :
    Effect σ (Option (Plan κ)) := do
  let start ← r.state
  let d := deliberate o start actions g
  logNotes d.notes
  match d.verdict with
  | .settled plan => return plan
  | .unsupported cs => Effect.fail (.severalUnknowns cs)
  | .ask c =>
    let t ← r.ask c
    let f := find o (start.set c t) actions g
    logNotes f.notes
    return f.plan

/-! ## All goals -/

/-- Plans to the goals of a list, in its order. -/
def plansInTurn (r : Resolver σ) (o : Options) (actions : List (Action κ)) :
    List (Goal κ) → Effect σ (List (Plan κ))
  | [] => return []
  | g :: gs => do
    let plan ← planToGoal r o actions g
    let plans ← plansInTurn r o actions gs
    return plan.toList ++ plans

/-- Plans to all goals that have one, by rank. -/
def plansToGoals (r : Resolver σ) (o : Options) (s : Domain κ) : Effect σ (List (Plan κ)) := do
  return rank (← plansInTurn r o s.actions (Goal.byName s.goals))

/-- The plan of the highest rank. -/
def bestPlan (r : Resolver σ) (o : Options) (s : Domain κ) : Effect σ (Option (Plan κ)) := do
  return (← plansToGoals r o s).head?

/-- Whether some plan uses an action. -/
def inUse (ps : List (Plan κ)) (a : Action κ) : Bool := ps.any fun p => p.shape.contains a.name

/-- The domain with the actions that some plan to a goal uses; `written` says how a plan is written in the log. -/
def pruneAs (written : Plan κ → Except Failure (Plan κ)) (r : Resolver σ) (o : Options) (s : Domain κ) :
    Effect σ (Domain κ) := do
  let plans ← plansToGoals r o s
  logNotes [.pruning (← Effect.ofExcept (plans.mapM written))]
  return s.restrict (inUse plans)

/-- The domain with the actions that some plan to a goal uses. -/
def prune (r : Resolver σ) (o : Options) (s : Domain κ) : Effect σ (Domain κ) := pruneAs .ok r o s

/-- Pruning plans for all goals, logs the plans and keeps the actions in use. -/
theorem prune_eq (r : Resolver σ) (o : Options) (s : Domain κ) :
    prune r o s = do
      let plans ← plansToGoals r o s
      logNotes [.pruning plans]
      return s.restrict (inUse plans) := by
  have written (plans : List (Plan κ)) : plans.mapM (Except.ok (ε := Failure)) = .ok plans :=
    (List.mapM_pure (f := id)).trans (congrArg Except.ok (List.map_id plans))
  simp [prune, pruneAs, written, Effect.ofExcept]

end

end GoalPlanner
