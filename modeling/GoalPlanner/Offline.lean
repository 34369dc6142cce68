import GoalPlanner.Document.Load
import GoalPlanner.Domain.Spelling
import GoalPlanner.Offline.Request

/-!
# Offline planning

Plans for a domain that a document describes, from the state it gives, with single conditions set otherwise on request
(`start`). Conditions that nobody sets do not hold, and a condition that the document writes in several ways is one
condition (`Domain.unified`). All goals are planned for, or one of them (`plans`); on request the actions in use are
listed as well (`keptActions`). `run` does all of it from the arguments of the command line.
-/

namespace GoalPlanner.Offline

open Document (Place Source)

/-- Why there is no report. -/
inductive Error
  /-- The list of options is asked for. -/
  | help
  /-- The request makes no sense. -/
  | usage (text : String)
  | settings (e : Settings.Error)
  | document (e : DocumentError)
  /-- A level of logging that is not known. -/
  | level
  | failure (f : Failure)
  /-- A name that cannot stand in a table. -/
  | sheet (e : SheetError)

/-- The error that a refusal of the command line is. -/
def Error.ofRefusal : Refusal → Error
  | .complaint text => usage text
  | .help => help

/-- The condition and the truth value that an override sets. -/
def readOverride (s : String) : Except String (Name × Truth) :=
  match splitValue s with
  | (name, some value) =>
    if name == "" then .error s!"Expected NAME=VALUE, got {Text.quoted s}"
    else match Truth.ofWord? value with
      | some t => .ok (.text name, t)
      | none => .error s!"Cannot interpret {Text.quoted value} as a condition value"
  | (_, none) => .error s!"Expected NAME=VALUE, got {Text.quoted s}"

/-- The state to plan from: overrides first, then the document, then what is not set does not hold. -/
def start (s : Domain Float) (state : Option Facts) (overrides : List (Name × Truth)) : Facts :=
  complete (Name.sort s.conditions) .no ((state.getD ∅).setAll overrides)

/-- The plans asked for: to one goal, or to all. -/
def plans (r : Resolver Unit) (o : Options) (s : Domain Float) : Option (Goal Float) → Effect Unit (List (Plan Float))
  | some g => do return (← planToGoal r o s.actions g).toList
  | none => plansToGoals r o s

/-- The domain that is pruned: with one goal, or with all. -/
def scope (s : Domain Float) : Option (Goal Float) → Domain Float
  | some g => s.withGoal g
  | none => s

/-- How a plan is written in the log: as a domain has it, with the conditions in order. -/
def writtenIn (d : Domain Float) (p : Plan Float) : Except Failure (Plan Float) :=
  if p.start.sortable then .ok (d.written p) else .error .unsortable

/-- The names of the actions that pruning keeps, in increasing order. -/
def keptActions (written : Plan Float → Except Failure (Plan Float)) (r : Resolver Unit) (o : Options)
    (s : Domain Float) : Effect Unit (List String) := do
  return (Action.byName (← pruneAs written r o s).actions).map Action.name

/-- The report on a domain; `written` says how a plan is written in the log. -/
def report (written : Plan Float → Except Failure (Plan Float)) (o : Options) (s : Domain Float) (facts : Facts)
    (goal : Option (Goal Float)) (prunes : Bool) : Effect Unit Report := do
  let r := Resolver.ofFacts facts
  let ps ← plans r o s goal
  let kept ← if prunes then some <$> keptActions written r o (scope s goal) else pure none
  return ⟨ps, kept⟩

/-- The result of a run. -/
structure Run where
  result : Except Error (Report × Sheet)
  log : Array Log.Record
  /-- The threshold of the log, once it is set. -/
  threshold : Option Nat

/-- The goal that a request names, if it names one. -/
def findGoal (q : Request) (s : Domain Float) : Except Error (Option (Goal Float)) :=
  match q.goal with
  | none | some "" => .ok none
  | some name =>
    match s.goal? name with
    | .ok g => .ok (some g)
    | .error _ => .error (.usage s!"No goal named {Text.quoted name} in {q.domain.text}")

/-- What a request asks to plan with: a document, overrides of its state, and a goal. -/
def prepare (files : Source) (q : Request) :
    Except Error (Loaded × List (Name × Truth) × Option (Goal Float)) := do
  let l ← (Document.loadDomain files q.domain).mapError .document
  let overrides ← (q.overrides.mapM readOverride).mapError .usage
  let goal ← findGoal q l.domain.unified
  return (l, overrides, goal)

/-- The report that a request asks for, once logging is set up. -/
def answer (files : Source) (q : Request) (settings : Settings) : Except Error (Report × Sheet) × Array Log.Record :=
  match prepare files q with
  | .error e => (.error e, #[])
  | .ok (l, overrides, goal) =>
    let s := l.domain.unified
    let facts := start s l.state overrides
    match (report (writtenIn l.domain) settings.options s facts goal q.prunes).outcome ⟨(), #[]⟩ with
    | (.error f, s) => (.error (.failure f), s.log)
    | (.ok r, s) =>
      if r.sortable || q.form == .table then (((r.sheet q.form).mapError .sheet).map (r, ·), s.log)
      else (.error (.failure .unsortable), s.log)

/-- The weight of the level that a request asks for, or that the settings give. -/
def chooseThreshold (asked : Option String) (settings : Settings) : Except Error Nat :=
  match asked with
  | none | some "" => .ok settings.threshold
  | some level => (Log.threshold? level).elim (.error .level) .ok

/-- Everything that a command line asks for. -/
def run (files : Source) (environment : Option String) (args : List String) : Run :=
  let prepared : Except Error (Request × Settings × Nat) := do
    let q ← (Request.read args).mapError Error.ofRefusal
    let settings ← (Document.chooseSettings files q.settings environment).mapError .settings
    let threshold ← chooseThreshold q.level settings
    return (q, settings, threshold)
  match prepared with
  | .error e => ⟨.error e, #[], none⟩
  | .ok (q, settings, threshold) =>
    let (result, log) := answer files q settings
    ⟨result, log, some threshold⟩

end GoalPlanner.Offline
