import GoalPlanner.Agent
import GoalPlanner.Settings
import GoalPlanner.World

/-!
# Setting up agents

The agent that plans over a blackboard, with what it knows about its own actions (`Agent.overBlackboard`). Its tools may
keep a state of type `τ` beside the world.
-/

namespace GoalPlanner

namespace Agent

/-- The agent that plans for a domain over a blackboard. -/
def overBlackboard {κ τ : Type} [Cost κ] (id : String) (domain : Domain κ) (maxActions : Int) (o : Options)
    (r : Resolution κ) (execute : Action κ → Effect (World × τ) Unit) : Agent κ (World × τ) where
  id := id
  domain := domain
  maxActions := maxActions
  planner history := Effect.zoom Prod.fst (fun w s => (w, s.2)) (bestPlan (r.resolver history) o domain)
  execute := execute

/-- How many actions an agent may carry out unless told otherwise. -/
def usualLimit : Int := 100

end Agent

/-- The record of an agent being set up. -/
def Settings.setupRecord (s : Settings) : Log.Record :=
  ⟨.debug, "agent.bootstrap", "Building agent process: defer_cost_threshold="
    ++ s.deferAbove.elim Value.null.literal Cost.text ++ s!", max_iterations={s.options.limit}"⟩

/-- The agent that settings describe. -/
def Settings.agent {τ : Type} (s : Settings) (id : String) (domain : Domain Float)
    (conditions : List (Condition Float)) (maxActions : Int) (execute : Action Float → Effect (World × τ) Unit) :
    Agent Float (World × τ) :=
  .overBlackboard id domain maxActions s.options (.ofDomain domain conditions s.deferAbove) execute

end GoalPlanner
