import GoalPlanner.Log
import GoalPlanner.Value.Writer

/-!
# Events

What is told about planning and acting: an event says when something of which kind (`EventKind`) happened where, and
gives details. A draft is an event whose time is not known yet (`Draft`). An event has a text of one line
(`Event.line?`), unless its details have keys that cannot be written.
-/

namespace GoalPlanner

/-- The kinds of events. -/
inductive EventKind
  | planFormulated
  | planNotFound
  | actionExecuted
  | actionFailed
  | processFinished
  | log
  deriving DecidableEq, Repr, Inhabited

namespace EventKind

/-- The kinds of events in the order of their numbers. -/
def all : List EventKind := [planFormulated, planNotFound, actionExecuted, actionFailed, processFinished, log]

/-- The name of a kind. -/
def name : EventKind → String
  | planFormulated => "PLAN_FORMULATED"
  | planNotFound => "PLAN_NOT_FOUND"
  | actionExecuted => "ACTION_EXECUTED"
  | actionFailed => "ACTION_FAILED"
  | processFinished => "PROCESS_FINISHED"
  | log => "LOG"

/-- The number of a kind, from one. -/
def number (k : EventKind) : Nat := all.idxOf k + 1

/-- The kind of a name. -/
def ofName? (name : String) : Option EventKind := all.find? fun k => k.name == name

end EventKind

/-- An event whose time is not known yet. -/
structure Draft where
  /-- The part of the program that speaks. -/
  source : String
  kind : EventKind
  message : String
  details : Value
  /-- What the event belongs to. -/
  correlation : Option String
  deriving Inhabited

/-- Something that happened. -/
structure Event extends Draft where
  time : Float
  deriving Inhabited

/-- A draft; details that count as false are left out. -/
def Draft.of (source : String) (kind : EventKind) (message : String) (details : Value)
    (correlation : Option String) : Draft :=
  ⟨source, kind, message, if details.isTrue then details else .mapping [], correlation⟩

/-- The event of a draft. -/
def Draft.at (d : Draft) (time : Float) : Event := { d with time := time }

/-- The record that a reported draft leaves in the log. -/
def Draft.record (d : Draft) : Log.Record :=
  ⟨.debug, "monitoring.logger", s!"{d.source} {d.kind.name}: {d.message}"⟩

/-! ## Text -/

/-- Whether a value can be the key of an entry in a text. -/
def Value.isTextKey : Value → Bool
  | .null | .bool _ | .int _ | .float _ | .text _ => true
  | .object k _ => [some Storage.text, some .integer, some .float].contains k.storage?
  | _ => false

mutual

/-- Whether a value can be written as a text. -/
def Value.isWritable : Value → Bool
  | .list items | .tuple items => Value.areWritable items
  | .mapping entries => Value.areWritableEntries entries
  | _ => true

/-- Whether all values of a list can be written. -/
def Value.areWritable : List Value → Bool
  | [] => true
  | v :: r => v.isWritable && Value.areWritable r

/-- Whether all entries of a mapping can be written. -/
def Value.areWritableEntries : List (Value × Value) → Bool
  | [] => true
  | (k, v) :: r => k.isTextKey && v.isWritable && Value.areWritableEntries r

end

namespace Event

/-- An event as a value. -/
def toValue (e : Event) : Value :=
  .mapping [(.text "ts", .float e.time), (.text "module", .text e.source), (.text "event_type", .text e.kind.name),
    (.text "message", .text e.message), (.text "payload", e.details),
    (.text "correlation_id", e.correlation.elim .null .text)]

/-- The line of an event in a journal, if its details can be written. -/
def line? (e : Event) : Option String :=
  if e.details.isWritable then some (e.toValue.toJson .line ++ "\n") else none

end Event

end GoalPlanner
