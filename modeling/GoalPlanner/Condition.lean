import GoalPlanner.Blackboard
import GoalPlanner.Cost

/-!
# Conditions with evaluators

A condition may be computed from a blackboard and the actions carried out so far, by an evaluator that costs something
(`Condition.computed`), and conditions can be combined. Evaluation runs evaluators from the left and leaves out those
that cannot matter (`Condition.evaluate`). Beside it stands the value of a whole condition by the connectives of
three-valued logic, for which every evaluator is asked (`Condition.value?`).
-/

namespace GoalPlanner

/-- What evaluators can see. -/
structure Context where
  blackboard : Blackboard
  /-- The actions carried out so far, oldest first. -/
  history : List String

/-- A condition with evaluators at its leaves. -/
inductive Condition (κ : Type)
  | computed (name : String) (cost : κ) (evaluator : Context → Except Failure Value)
  /-- A condition without an evaluator. -/
  | abstract
  | not (c : Condition κ)
  /-- That a condition is not known. -/
  | isUnknown (c : Condition κ)
  | and (c d : Condition κ)
  | or (c d : Condition κ)

/-- What an evaluation comes to, and the evaluators that ran for it, in order. -/
structure Evaluation where
  result : Except Failure Truth
  ran : List String

/-- An evaluation that goes on, if the one before has not failed. -/
def Evaluation.andThen (e : Evaluation) (next : Truth → Evaluation) : Evaluation :=
  match e.result with
  | .error f => ⟨.error f, e.ran⟩
  | .ok t => ⟨(next t).result, e.ran ++ (next t).ran⟩

/-- An evaluation without evaluators. -/
def Evaluation.done (t : Truth) : Evaluation := ⟨.ok t, []⟩

namespace Condition

variable {κ : Type} [Cost κ]

/-! ## Names and costs -/

/-- A condition with an evaluator; its cost lies between zero and one. -/
def computed? (name : String) (cost : κ) (evaluator : Context → Except Failure Value) :
    Except Failure (Condition κ) :=
  if (cost == 0 || 0 < cost) && (cost == Cost.count 1 || cost < Cost.count 1) then
    .ok (.computed name cost evaluator)
  else .error (.costOutOfRange name (Cost.text cost))

/-- The name of a condition. -/
def name : Condition κ → String
  | computed name _ _ => name
  | abstract => ""
  | not c => "!" ++ c.name
  | isUnknown c => "?" ++ c.name
  | and c d => "(" ++ c.name ++ " AND " ++ d.name ++ ")"
  | or c d => "(" ++ c.name ++ " OR " ++ d.name ++ ")"

/-- The smaller of two costs, the first of equal ones. -/
def lesser (a b : κ) : κ := if b < a then b else a

/-- What it costs to evaluate a condition; a pair costs what its cheaper side does. -/
def cost : Condition κ → κ
  | computed _ cost _ => cost
  | abstract => 0
  | not c => c.cost
  | isUnknown c => c.cost
  | and c d => lesser c.cost d.cost
  | or c d => lesser c.cost d.cost

/-- What sort of condition it is. -/
def sort : Condition κ → String
  | computed .. => "ComputedCondition"
  | abstract => "Condition"
  | not _ => "_NotCondition"
  | isUnknown _ => "_UnknownCondition"
  | and .. => "_AndCondition"
  | or .. => "_OrCondition"

/-- The condition with its sort, name and cost. -/
def info (c : Condition κ) : String := c.sort ++ "(name='" ++ c.name ++ "', cost=" ++ Cost.text c.cost ++ ")"

/-- Whether a condition is meant by a name: its own name, or the last part of it after a point. -/
def isCalled (c : Condition κ) (name : String) : Bool :=
  c.name == name || ('.' :: name.toList).isSuffixOf c.name.toList

/-! ## Evaluation -/

/-- The truth value that an evaluator reports with a value. -/
def reported : Value → Truth
  | .truth t => t
  | v => v.asTruth

/-- Evaluates a condition; the second side of a pair only if the first one leaves it open. -/
def evaluate (ctx : Context) : Condition κ → Evaluation
  | computed name _ evaluator => ⟨(evaluator ctx).map reported, [name]⟩
  | abstract => ⟨.error .noEvaluator, []⟩
  | not c => (c.evaluate ctx).andThen fun t => .done t.not
  | isUnknown c => (c.evaluate ctx).andThen fun t => .done t.isUnknown
  | and c d => (c.evaluate ctx).andThen fun s =>
    if s = .no then .done .no
    else (d.evaluate ctx).andThen fun t => .done (s.and t)
  | or c d => (c.evaluate ctx).andThen fun s =>
    if s = .yes then .done .yes
    else (d.evaluate ctx).andThen fun t => .done (s.or t)

/-- The value of a whole condition by the three-valued connectives, if all its evaluators have an answer. -/
def value? (ctx : Context) : Condition κ → Option Truth
  | computed _ _ evaluator =>
    match evaluator ctx with
    | .ok v => some (reported v)
    | .error _ => none
  | abstract => none
  | not c => (c.value? ctx).map Truth.not
  | isUnknown c => (c.value? ctx).map Truth.isUnknown
  | and c d => do return (← c.value? ctx).and (← d.value? ctx)
  | or c d => do return (← c.value? ctx).or (← d.value? ctx)

/-- The evaluators in a condition, from the left, with their costs. -/
def leaves : Condition κ → List (String × κ)
  | computed name cost _ => [(name, cost)]
  | abstract => []
  | not c => c.leaves
  | isUnknown c => c.leaves
  | and c d => c.leaves ++ d.leaves
  | or c d => c.leaves ++ d.leaves

end Condition

end GoalPlanner
