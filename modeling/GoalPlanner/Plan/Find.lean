import GoalPlanner.Plan.Note
import GoalPlanner.Search

/-!
# Finding a plan

The search for a cheapest plan from a state to a goal: nodes are snapshots, actions are tried by name, and the estimate
of what is left counts the unmet requirements of the goal (`Goal.problem`). The way found is trimmed, if wanted, and
becomes the plan (`find`).
-/

namespace GoalPlanner

/-- How planning is done: the limit on the steps of one search, and whether ways found are trimmed. -/
structure Options where
  limit : Nat
  trims : Bool
  deriving DecidableEq, Repr

/-- The options in use unless others are asked for. -/
def Options.usual : Options := ⟨10000, true⟩

instance : Inhabited Options := ⟨Options.usual⟩

variable {κ : Type} [Cost κ]

/-- The snapshot after an action, where it is available. -/
def Action.next? (a : Action κ) (s : Snapshot) : Option Snapshot :=
  if s.meets a.pre then some (s.merge a.eff) else none

/-- The number of unmet requirements of a goal. -/
def Goal.unmet (g : Goal κ) (s : Snapshot) : Nat := g.pre.entries.countP fun e => s.get? e.1 != some e.2

/-- The search problem of reaching a goal. -/
def Goal.problem (g : Goal κ) (start : Snapshot) (actions : List (Action κ)) :
    Problem Snapshot (Action κ) κ where
  start := start
  actions := Action.byName actions
  next := Action.next?
  cost := Action.cost
  label := Action.name
  estimate s := Cost.count (g.unmet s)
  done s := s.meets g.pre

/-- What a search came to. -/
structure Finding (κ : Type) [Cost κ] where
  plan : Option (Plan κ)
  /-- The search that was run. -/
  search : Search Snapshot (Action κ) κ
  /-- Whether the limit ended it while entries were waiting. -/
  cut : Bool
  notes : List (Note κ)

/-- A cheapest plan from a state to a goal, as far as the limit lets one be found. -/
def find (o : Options) (start : Facts) (actions : List (Action κ)) (g : Goal κ) : Finding κ :=
  let s := Search.run (g.problem (.ofFacts start) actions) o.limit
  let cut := s.cut o.limit
  let warning := if cut then [Note.cutShort g.name s.steps s.queue.size] else []
  match s.way? with
  | none => ⟨none, s, cut, warning ++ [.noPlan g.name start s.steps]⟩
  | some way =>
    let (kept, dropped) := trimBy start g (if o.trims then [.backward, .forward] else []) way
    let plan : Plan κ := ⟨kept, g, start⟩
    ⟨some plan, s, cut,
      warning ++ dropped.map (fun (w, n) => .dropped w n g.name) ++ [.found plan s.steps]⟩

/-- The plan that a search came to. -/
def plan? (o : Options) (start : Facts) (actions : List (Action κ)) (g : Goal κ) : Option (Plan κ) :=
  (find o start actions g).plan

end GoalPlanner
