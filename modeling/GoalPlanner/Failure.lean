import GoalPlanner.Name
import GoalPlanner.Text.Quoted

/-!
# Failures

What can go wrong while planning or acting (`Failure`): the kind that a failure is reported under (`Failure.kind`), what
it says (`Failure.message`), and both in one text (`Failure.text`).
-/

namespace GoalPlanner

/-- A failure while planning or acting. -/
inductive Failure
  /-- More than one condition is not known. -/
  | severalUnknowns (conditions : List Name)
  /-- Something that is no action was given as one: its kind and its text. -/
  | notAnAction (kind text : String)
  /-- A failure of its own kind, reported by an evaluator, a data source or a tool. -/
  | raised (kind message : String)
  /-- A label for a value that is no mapping, by the kind of the value. -/
  | notLabelled (kind : String)
  /-- A name that nothing is bound to. -/
  | unbound (name : String)
  /-- A value that can be no key of a mapping, by its kind. -/
  | notKey (kind : String)
  /-- A text that spells no number. -/
  | notNumber (text : String)
  /-- Conditions that cannot be put in order. -/
  | unsortable
  /-- A condition without an evaluator. -/
  | noEvaluator
  /-- A condition whose cost is not between zero and one, by the text of the cost. -/
  | costOutOfRange (condition cost : String)
  deriving DecidableEq, Repr

namespace Failure

/-- A name inside a list of names. -/
def nameLiteral : Name → String
  | .text s => Text.quoted s
  | n => n.shown

/-- The kind that a failure is reported under. -/
def kind : Failure → String
  | severalUnknowns _ => "UnsupportedMultipleUnknownsError"
  | notAnAction .. => "TypeError"
  | raised kind _ => kind
  | notLabelled _ => "TypeError"
  | unbound _ => "KeyError"
  | notKey _ => "TypeError"
  | notNumber _ => "ValueError"
  | unsortable => "TypeError"
  | noEvaluator => "NotImplementedError"
  | costOutOfRange .. => "ValueError"

/-- What a failure says. -/
def message : Failure → String
  | severalUnknowns cs =>
    "Cannot plan with more than one unknown condition: [" ++ ", ".intercalate (cs.map nameLiteral) ++ "]"
  | notAnAction kind text => s!"Expected Action, got {kind}: {text}"
  | raised _ message => message
  | notLabelled kind => s!"Only mapping values can carry a label, got {kind}"
  | unbound name => name
  | notKey kind => s!"unhashable type: '{kind}'"
  | notNumber text => s!"could not convert string to float: {Text.quoted text}"
  | unsortable => "the conditions cannot be put in order"
  | noEvaluator => "Condition subclasses must override evaluate()"
  | costOutOfRange condition cost => s!"Condition '{condition}' cost must be in [0, 1], got {cost}"

/-- Kind and message in one text. -/
def text (f : Failure) : String := f.kind ++ "(" ++ Text.quoted f.message ++ ")"

end Failure

end GoalPlanner
