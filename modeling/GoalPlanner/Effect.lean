import GoalPlanner.Failure
import GoalPlanner.Log

/-!
# Effects

Computations that may fail, change a world of type `σ` and write a log (`Effect σ`). What was changed and logged before
a failure stays. A computation on a part of the world is one on the whole (`Effect.zoom`).
-/

namespace GoalPlanner

/-- A world and what has been logged so far. -/
structure Session (σ : Type) where
  world : σ
  log : Array Log.Record

/-- A computation that may fail, change the world and write the log. -/
abbrev Effect (σ : Type) := ExceptT Failure (StateM (Session σ))

namespace Effect

variable {σ τ : Type}

/-- Writes a record to the log. -/
def log (r : Log.Record) : Effect σ Unit := modify fun s => { s with log := s.log.push r }

/-- Writes records to the log. -/
def logAll (rs : List Log.Record) : Effect σ Unit := modify fun s => { s with log := s.log ++ rs.toArray }

/-- The world. -/
def world : Effect σ σ := do return (← get).world

/-- Changes the world. -/
def change (f : σ → σ) : Effect σ Unit := modify fun s => { s with world := f s.world }

/-- Fails. -/
def fail {α : Type} (f : Failure) : Effect σ α := throw f

/-- The value of a result, or its failure. -/
def ofExcept {α : Type} : Except Failure α → Effect σ α
  | .ok a => return a
  | .error f => fail f

/-- The outcome of a computation from a session, and the session after it. -/
def outcome {α : Type} (e : Effect σ α) (s : Session σ) : Except Failure α × Session σ := e.run s

/-- A computation on a part of the world. -/
def zoom {α : Type} (part : τ → σ) (put : σ → τ → τ) (e : Effect σ α) : Effect τ α := fun s =>
  let (result, t) := e.outcome ⟨part s.world, s.log⟩
  (result, ⟨put t.world s.world, t.log⟩)

end Effect

end GoalPlanner
