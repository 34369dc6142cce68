import GoalPlanner.Cost
import GoalPlanner.Queue
import Std.Data.HashMap
import Std.Data.HashSet

/-!
# Best-first search

The search for a cheapest sequence of actions from a start to a node that is done (`Problem`, `Search.run`). Entries
wait in a queue ordered by their bound (cost so far plus estimate), then by the label of the action that made them, then
by their number. A node is reopened when a cheaper way to it turns up. After the first node that is done the search goes
on below its cost, so the estimate need not be a lower bound. A limit on the number of steps ends every run.

A state of the search (`Search`) is plain data; `step` is one turn of the loop, and `run` repeats it until nothing waits
or the limit is reached.
-/

namespace GoalPlanner

/-- A search problem: nodes `σ`, actions `α`, costs `κ`. -/
structure Problem (σ α κ : Type) where
  start : σ
  /-- The actions, in the order in which they are tried. -/
  actions : List α
  /-- The node that an action leads to, where the action is available. -/
  next : α → σ → Option σ
  cost : α → κ
  label : α → String
  /-- An estimate of the cost that is still to come. -/
  estimate : σ → κ
  done : σ → Bool

/-- A way to a node that waits to be followed. -/
structure Entry (σ κ : Type) where
  /-- The cost so far plus the estimate of the rest. -/
  bound : κ
  /-- The label of the last action. -/
  label : String
  /-- How many entries were made before this one. -/
  number : Nat
  /-- The cost so far. -/
  cost : κ
  node : σ

/-- A state of the search. -/
structure Search (σ α κ : Type) [BEq σ] [Hashable σ] where
  queue : Queue (Entry σ κ)
  /-- The least cost at which each node has been reached. -/
  costs : Std.HashMap σ κ
  /-- The node before each node but the start, and the action between them. -/
  links : Std.HashMap σ (σ × α)
  /-- The nodes that need not be followed again unless a cheaper way to them turns up. -/
  closed : Std.HashSet σ
  /-- The last node found to be done, and its cost then. -/
  best : Option (σ × κ)
  /-- The number of entries made so far. -/
  made : Nat
  /-- The number of entries taken from the queue so far. -/
  steps : Nat

section

variable {σ α κ : Type} [Cost κ]

/-- The order of the queue: by bound, then by label, then by number. -/
def Entry.before (d e : Entry σ κ) : Bool :=
  d.bound < e.bound || (!decide (e.bound < d.bound) &&
    (d.label < e.label || (d.label == e.label && d.number < e.number)))

variable [BEq σ] [Hashable σ]

namespace Search

/-! ## One turn -/

/-- Whether a cost is no less than that of the best node found to be done. -/
def outbid (s : Search σ α κ) (cost : κ) : Bool :=
  match s.best with
  | some (_, b) => !decide (cost < b)
  | none => false

/-- Whether a cheaper way to the node of an entry has turned up since the entry was made. -/
def stale (s : Search σ α κ) (e : Entry σ κ) : Bool :=
  match s.costs[e.node]? with
  | some c => decide (c < e.cost)
  | none => false

/-- Whether a cost is less than any at which the node has been reached so far. -/
def improves (s : Search σ α κ) (node : σ) (cost : κ) : Bool :=
  match s.costs[node]? with
  | some c => decide (cost < c)
  | none => Cost.bounded cost

/-- The search with a new, cheapest way to a node. -/
def reach (p : Problem σ α κ) (s : Search σ α κ) (source : σ) (action : α) (node : σ) (cost : κ) : Search σ α κ :=
  { s with
    queue := s.queue.push Entry.before ⟨cost + p.estimate node, p.label action, s.made, cost, node⟩
    costs := s.costs.insert node cost
    links := s.links.insert node (source, action)
    closed := s.closed.erase node
    made := s.made + 1 }

/-- The search after one action has been tried from a node reached at some cost. -/
def attempt (p : Problem σ α κ) (source : σ) (cost : κ) (s : Search σ α κ) (action : α) : Search σ α κ :=
  match p.next action source with
  | none => s
  | some node =>
    let total := cost + p.cost action
    if node == source || s.outbid total || !s.improves node total then s
    else s.reach p source action node total

/-- The search after all actions have been tried from a node. -/
def expand (p : Problem σ α κ) (s : Search σ α κ) (node : σ) (cost : κ) : Search σ α κ :=
  p.actions.foldl (attempt p node cost) s

/-- The search after an entry has been taken from the queue. -/
def follow (p : Problem σ α κ) (s : Search σ α κ) (e : Entry σ κ) : Search σ α κ :=
  if s.stale e || s.outbid e.cost || s.closed.contains e.node then s
  else
    let s := { s with closed := s.closed.insert e.node }
    if p.done e.node then { s with best := some (e.node, e.cost) }
    else s.expand p e.node e.cost

/-- One turn; none when nothing waits. -/
def step (p : Problem σ α κ) (s : Search σ α κ) : Option (Search σ α κ) :=
  match s.queue.pop? Entry.before with
  | none => none
  | some (e, rest) => some (follow p { s with queue := rest, steps := s.steps + 1 } e)

/-! ## Runs -/

/-- The search before its first turn. -/
def init (p : Problem σ α κ) : Search σ α κ :=
  { queue := Queue.empty.push Entry.before ⟨p.estimate p.start, "", 0, 0, p.start⟩
    costs := (∅ : Std.HashMap σ κ).insert p.start 0
    links := ∅
    closed := ∅
    best := none
    made := 1
    steps := 0 }

/-- The search after at most `limit` turns. -/
def iterate (p : Problem σ α κ) : (limit : Nat) → Search σ α κ → Search σ α κ
  | 0, s => s
  | limit + 1, s =>
    match step p s with
    | none => s
    | some s => iterate p limit s

/-- The search from the start after at most `limit` turns. -/
def run (p : Problem σ α κ) (limit : Nat) : Search σ α κ := iterate p limit (init p)

/-- Whether a run was ended by its limit while entries were waiting. -/
def cut (s : Search σ α κ) (limit : Nat) : Bool := s.queue.size != 0 && limit ≤ s.steps

/-! ## The way found -/

/-- The actions that lead to a node, put before `after`: links are followed back, at most `fuel` of them. -/
def wayTo (links : Std.HashMap σ (σ × α)) : (fuel : Nat) → σ → (after : List α) → List α
  | 0, _, after => after
  | fuel + 1, node, after =>
    match links[node]? with
    | none => after
    | some (source, action) => wayTo links fuel source (action :: after)

/-- The actions to the best node, if one is done. No node is linked twice, so as many links as there are suffice. -/
def way? (s : Search σ α κ) : Option (List α) :=
  s.best.map fun (node, _) => wayTo s.links s.links.size node []

end Search

end

end GoalPlanner
