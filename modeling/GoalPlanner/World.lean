import GoalPlanner.Plan.Choice
import GoalPlanner.Query

/-!
# The world as conditions see it

A blackboard with the kinds of its values is a world in which every condition has a truth value (`Resolution.read`).
Only conditions with evaluators can come out as not known: because the evaluator says so, or because the evaluation
costs too much to be made before it matters (`Resolution.defers`). A world supplies the states that are planned from
(`Resolution.resolver`).
-/

namespace GoalPlanner

/-- A blackboard, the names of its kinds, and the evaluators that have run, oldest first. -/
structure World where
  blackboard : Blackboard
  registry : Registry
  ran : List String
  deriving Inhabited

/-- The world on whose blackboard nothing stands. -/
def World.empty : World := ⟨.empty, .empty, []⟩

/-- How conditions are resolved: those that a state mentions, those with evaluators, and the cost above which an
evaluation waits until it is asked for. -/
structure Resolution (κ : Type) where
  known : List Name
  conditions : List (Condition κ)
  deferAbove : Option κ

/-- What reading a condition comes to: its truth, the evaluators that ran for it, the kinds looked up, and what is
logged. -/
structure Reading where
  result : Except Failure Truth
  ran : List String
  registry : Registry
  records : List Log.Record

namespace Resolution

variable {κ : Type} [Cost κ]

/-- The part of the program that logs how conditions are resolved. -/
def logger : String := "world.resolver"

/-- A record at the lowest level. -/
def record (message : String) : Log.Record := ⟨.debug, logger, message⟩

/-- The record of a condition whose truth was found. -/
def found (sort name : String) (t : Truth) : Log.Record :=
  record s!"Determined {sort} condition {name}={t.name}"

/-- The warning about a condition that is not known. -/
def warning (r : Resolution κ) (b : Blackboard) (name : String) : Log.Record :=
  ⟨.warning, logger, s!"Determined condition {name} to be unknown: known conditions=["
    ++ ", ".intercalate (r.known.map Failure.nameLiteral) ++ "], " ++ b.info⟩

/-- Whether an evaluation waits until it is asked for. -/
def defers (r : Resolution κ) (c : Condition κ) : Bool :=
  match r.deferAbove with
  | none => false
  | some limit => limit < c.cost

/-- Reads what a name asks for; `early` if it is not certain yet that the answer matters. -/
def answer (r : Resolution κ) (history : List String) (w : World) (early : Bool) (name : String) :
    Query κ → Reading
  | .malformed =>
    ⟨.ok .no, [], w.registry,
      [record ("Malformed binding condition " ++ Text.quoted name ++ " resolves to FALSE")]⟩
  | .sequence var => ⟨.ok (.ofBool (w.blackboard.sequence? var).isSome), [], w.registry, []⟩
  | .binding var kind =>
    let (value, registry) := (w.blackboard.value? var kind).run w.registry
    let t := Truth.ofBool value.isSome
    ⟨.ok t, [], registry,
      [record (s!"Determined binding condition {name}={t.name}: variable={var}, type={kind}, value="
        ++ (value.getD .null).literal)]⟩
  | .hasRun action =>
    let t := Truth.ofBool (history.contains action)
    ⟨.ok t, [], w.registry, [found "hasRun" name t]⟩
  | .named c =>
    if early && r.defers c then
      ⟨.ok .unknown, [], w.registry, [record (s!"Deferring condition {name} (cost=" ++ Cost.text c.cost ++ ")")]⟩
    else
      let e := c.evaluate ⟨w.blackboard, history⟩
      match e.result with
      | .error f => ⟨.error f, e.ran, w.registry, []⟩
      | .ok t =>
        ⟨.ok t, e.ran, w.registry,
          found "named" name t :: if t = .unknown then [r.warning w.blackboard name] else []⟩
  | .flag key =>
    let t := (Truth.ofOption (w.blackboard.flags.get? key)).definite
    ⟨.ok t, [], w.registry, [found "explicitly set" name t]⟩

/-- Reads a condition. -/
def read (r : Resolution κ) (history : List String) (w : World) (early : Bool) (name : String) : Reading :=
  r.answer history w early name (.ofName r.conditions name)

end Resolution

/-- The world after a reading. -/
def World.after (w : World) (x : Reading) : World := { w with registry := x.registry, ran := w.ran ++ x.ran }

/-- A reading as a step of a computation. -/
def Reading.perform (x : Reading) : Effect World Truth := do
  Effect.change fun w => w.after x
  Effect.logAll x.records
  Effect.ofExcept x.result

namespace Resolution

variable {κ : Type} [Cost κ]

/-- The truth of a condition in the present world. Conditions are named by texts. To ask for a name that is no text is an
error that is not modelled: the name is read as its text (`Name.shown`), and no result is meant for it. -/
def determine (r : Resolution κ) (history : List String) (early : Bool) (name : Name) : Effect World Truth := do
  (r.read history (← Effect.world) early name.shown).perform

/-- The truths of some conditions, in turn. -/
def determineAll (r : Resolution κ) (history : List String) : List Name → Effect World (List (Name × Truth))
  | [] => return []
  | name :: names => do
    let t ← r.determine history true name
    let rest ← r.determineAll history names
    return (name, t) :: rest

/-- The states that a world supplies after some actions. -/
def resolver (r : Resolution κ) (history : List String) : Resolver World where
  state := do return Table.ofList (← r.determineAll history r.known)
  ask name := r.determine history false name

/-- The resolution of the conditions of a domain. -/
def ofDomain (s : Domain κ) (conditions : List (Condition κ)) (deferAbove : Option κ) : Resolution κ :=
  ⟨Name.sort s.conditions, conditions, deferAbove⟩

end Resolution

end GoalPlanner
