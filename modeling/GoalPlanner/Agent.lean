import GoalPlanner.Agent.Notice
import GoalPlanner.Effect

/-!
# Agents

An agent plans, carries out one action and plans again, because the effects of an action are expected but not certain.
A run of it (`Run`) knows the actions that were carried out and tells what happens, tick by tick (`Agent.tick`). It ends
when the plan has nothing left to do, when there is no plan, when an action fails, or when the agent has acted as often
as it may (`Agent.run`).
-/

namespace GoalPlanner

/-- Something that plans and acts in a world of type `σ`. -/
structure Agent (κ σ : Type) [Cost κ] where
  id : String
  domain : Domain κ
  /-- How many actions it may carry out. -/
  maxActions : Int
  /-- The best plan after some actions. -/
  planner : List String → Effect σ (Option (Plan κ))
  execute : Action κ → Effect σ Unit

/-- A run of an agent. -/
structure Run (κ σ : Type) [Cost κ] where
  status : Status
  /-- The actions carried out so far, oldest first. -/
  history : List String
  lastPlan : Option (Plan κ)
  /-- What was told so far, oldest first. -/
  notices : List (Notice κ)
  session : Session σ

variable {κ σ : Type} [Cost κ]

namespace Run

/-- A run that has told nothing yet. -/
def start (history : List String) (s : Session σ) : Run κ σ := ⟨.running, history, none, [], s⟩

/-- The run with a record in its log. -/
def log (p : Run κ σ) (r : Log.Record) : Run κ σ :=
  { p with session := { p.session with log := p.session.log.push r } }

/-- The run after telling something. -/
def tell (p : Run κ σ) (n : Notice κ) : Run κ σ :=
  { p.log n.record with notices := p.notices ++ [n] }

/-- The run at its end. -/
def finish (p : Run κ σ) (s : Status) : Run κ σ :=
  { p with status := s }.tell (.finished s p.history)

end Run

namespace Agent

/-- What an agent logs about its run. -/
def record (a : Agent κ σ) (what : String) : Log.Record := ⟨.info, Notice.source, s!"Process {a.id} {what}"⟩

/-- Carries out the first action of a plan. -/
def act (a : Agent κ σ) (p : Run κ σ) (plan : Plan κ) : Except Failure Status × Run κ σ :=
  match plan.actions with
  | [] => (.ok .completed, (p.log (a.record s!"achieved goal {plan.goal.name}")).finish .completed)
  | action :: _ =>
    let p := p.log (a.record s!"executing {action.name}")
    match (a.execute action).outcome p.session with
    | (.error f, s) =>
      (.error f, ({ p with session := s }.tell (.actionFailed action.name f)).finish .failed)
    | (.ok (), s) =>
      (.ok .running, { p with session := s, history := p.history ++ [action.name] }.tell (.executed action.name))

/-- Plans once and carries out one action at most. -/
def tick (a : Agent κ σ) (p : Run κ σ) : Except Failure Status × Run κ σ :=
  if p.status.isTerminal then (.ok p.status, p)
  else if a.maxActions ≤ p.history.length then (.ok .terminated, p.finish .terminated)
  else
    match (a.planner p.history).outcome p.session with
    | (.error f, s) => (.error f, { p with session := s })
    | (.ok none, s) =>
      let p := { p with session := s, lastPlan := none }.log (a.record "is stuck: no plan to any goal")
      (.ok .stuck, (p.tell (.noPlan ((Goal.byName a.domain.goals).map Goal.name))).finish .stuck)
    | (.ok (some plan), s) => a.act ({ p with session := s, lastPlan := some plan }.tell (.planned plan)) plan

/-- Ticks until an end or a failure, some number of times at most. -/
def runFor (a : Agent κ σ) : Nat → Run κ σ → Except Failure Status × Run κ σ
  | 0, p => (.ok p.status, p)
  | n + 1, p =>
    if p.status.isTerminal then (.ok p.status, p)
    else match a.tick p with
      | (.error f, p) => (.error f, p)
      | (.ok _, p) => a.runFor n p

/-- How many actions may still be carried out in a run. -/
def room (a : Agent κ σ) (p : Run κ σ) : Nat := (a.maxActions - p.history.length).toNat

/-- Ticks until an end or a failure. A tick that does not end the run carries out an action, so that one tick more than
there is room for actions is enough. -/
def run (a : Agent κ σ) (p : Run κ σ) : Except Failure Status × Run κ σ := a.runFor (a.room p + 1) p

end Agent

end GoalPlanner
