import GoalPlanner.Event
import GoalPlanner.Failure
import GoalPlanner.Plan.Record

/-!
# Notices of agents

What is told about a run of an agent (`Notice`), and the event that tells it (`Notice.draft`).
-/

namespace GoalPlanner

/-- Where a run stands. -/
inductive Status
  | running
  | completed
  | stuck
  | failed
  | terminated
  deriving DecidableEq, Repr, Inhabited

/-- The name of a status. -/
def Status.name : Status → String
  | running => "running"
  | completed => "completed"
  | stuck => "stuck"
  | failed => "failed"
  | terminated => "terminated"

/-- Whether a run has come to its end. -/
def Status.isTerminal (s : Status) : Bool := s != .running

/-- Something that is told about a run. -/
inductive Notice (κ : Type) [Cost κ]
  /-- The plan that is followed next. -/
  | planned (plan : Plan κ)
  /-- That none of these goals has a plan. -/
  | noPlan (goals : List String)
  /-- The action that was carried out. -/
  | executed (action : String)
  /-- The action that failed. -/
  | actionFailed (action : String) (f : Failure)
  /-- That the run has come to its end, after these actions. -/
  | finished (status : Status) (history : List String)

namespace Notice

variable {κ : Type} [Cost κ]

/-- The kind of event that a notice is. -/
def kind : Notice κ → EventKind
  | planned _ => .planFormulated
  | noPlan _ => .planNotFound
  | executed _ => .actionExecuted
  | actionFailed .. => .actionFailed
  | finished .. => .processFinished

/-- What a notice says. -/
def message : Notice κ → String
  | planned _ => "Plan formulated"
  | noPlan _ => "No plan to any goal"
  | executed _ => "Action executed"
  | actionFailed .. => "Action raised an exception"
  | finished status _ => "Process finished: " ++ status.name

/-- The part of the program that speaks. -/
def source : String := "agent.process"

/-- Texts as a list. -/
def textList (xs : List String) : Value := .list (xs.map .text)

/-- The details of a notice. -/
def details : Notice Float → Value
  | planned p =>
    .mapping [(.text "goal", .text p.goal.name), (.text "actions", p.actionsRecord), (.text "cost", p.costRecord),
      (.text "net_value", .float p.netValue)]
  | noPlan goals => .mapping [(.text "goals", textList goals)]
  | executed action => .mapping [(.text "action", .text action)]
  | actionFailed action f => .mapping [(.text "action", .text action), (.text "exception_repr", .text f.text)]
  | finished status history =>
    .mapping [(.text "status", .text status.name), (.text "history", textList history)]

/-- The event of a notice of an agent, without its time. -/
def draft (agent : String) (n : Notice Float) : Draft := ⟨source, n.kind, n.message, n.details, some agent⟩

/-- The record that a notice leaves in the log. -/
def record (n : Notice κ) : Log.Record := (Draft.mk source n.kind n.message .null none).record

end Notice

end GoalPlanner
