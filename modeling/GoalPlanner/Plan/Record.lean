import GoalPlanner.Plan.ClosedWorld
import GoalPlanner.Value.Writer

/-!
# Records of states and plans

States and plans as values, for reports and events. Fields of a report come in alphabetical order, and conditions by
name.
-/

namespace GoalPlanner

/-- A name as the key of a record. -/
def Name.toValue : Name → Value
  | .text s => .text s
  | .number n => .int n
  | .flag b => .bool b
  | .decimal bits => .float (Float.ofBits bits)
  | .null => .null

/-- A name as a field of a record. -/
def Name.key (n : Name) : String := Value.Writer.fieldName n.toValue

/-- A state, by the names of the conditions. -/
def Facts.toValue (s : Facts) : Value := .mapping (s.sorted.map fun e => (e.1.toValue, .text e.2.name))

/-- A state as a JSON text of several lines. -/
def Facts.report (s : Facts) : String := s.toValue.toJson .report

/-- Whether the conditions of a state can be put in order. -/
def Facts.sortable (s : Facts) : Bool := Name.sortable s.keys

namespace Plan

/-- The names of the actions. -/
def actionsRecord (p : Plan Float) : Value := .list (p.shape.map .text)

/-- What the actions cost together; over no actions it is the integer zero. -/
def costRecord (p : Plan Float) : Value := if p.complete then .int 0 else .float p.cost

/-- The plan with the state it starts from. -/
def toValue (p : Plan Float) : Value :=
  .mapping [(.text "actions", p.actionsRecord), (.text "cost", p.costRecord), (.text "goal", .text p.goal.name),
    (.text "net_value", .float p.netValue), (.text "start_state", p.start.toValue)]

end Plan

end GoalPlanner
