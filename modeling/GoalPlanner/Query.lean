import GoalPlanner.Condition
import GoalPlanner.Step

/-!
# What the name of a condition asks for

`x:Kind` asks for a value bound to `x` of that kind, `x:List` for a sequence bound to `x`; the name of an action that
has run asks for the actions carried out so far; any other name asks for the first condition that is called so or else
for a flag (`Query.ofName`).
-/

namespace GoalPlanner

/-- What the name of a condition asks for. -/
inductive Query (κ : Type)
  /-- Neither the variable nor the kind may be empty. -/
  | malformed
  | sequence (var : String)
  | binding (var kind : String)
  | hasRun (action : String)
  | named (c : Condition κ)
  | flag (key : String)

namespace Query

variable {κ : Type} [Cost κ]

/-- The kind that asks for a sequence. -/
def sequenceKind : String := "List"

/-- The parts of a name before and after its first colon. -/
def splitAtColon? (name : String) : Option (String × String) :=
  let before := name.toList.takeWhile (· != ':')
  match name.toList.dropWhile (· != ':') with
  | [] => none
  | _ :: after => some (String.ofList before, String.ofList after)

/-- The action whose run a name asks for. -/
def ranAction? (name : String) : Option String :=
  let start := (GoalPlanner.hasRun "").toList
  if start.isPrefixOf name.toList then some (String.ofList (name.toList.drop start.length)) else none

/-- What a name with a variable and a kind asks for. -/
def ofBinding (var kind : String) : Query κ :=
  if var == "" || kind == "" then malformed
  else if kind == sequenceKind then sequence var
  else binding var kind

/-- What a name asks for, where these conditions are registered. -/
def ofName (conditions : List (Condition κ)) (name : String) : Query κ :=
  match splitAtColon? name with
  | some (var, kind) => ofBinding var kind
  | none =>
    match ranAction? name with
    | some action => hasRun action
    | none =>
      match conditions.find? fun c => c.isCalled name with
      | some c => named c
      | none => flag name

end Query

end GoalPlanner
