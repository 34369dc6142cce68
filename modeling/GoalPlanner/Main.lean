import GoalPlanner.Offline
import GoalPlanner.Value.Reader

/-!
# The command line

Reads the documents that the arguments name, written in JSON, plans offline for them and prints the report. The exit
code is zero if there is a plan, one if there is none, and two if the request makes no sense.
-/

namespace GoalPlanner.Offline

open Document (Place Source Found)

/-- The variable of the environment that may name the place of the settings. -/
def settingsVariable : String := "GOAP_PLANNER_CONFIG"

/-- The places of all documents that a request needs. -/
def Request.places (q : Request) (environment : Option String) : List Place :=
  q.domain :: (q.settings.or (environment.map Place.ofString)).toList

/-- The document of a text; a text of blanks holds none. -/
def readDocument (text : String) : Value :=
  if (Text.trim text.toList).isEmpty then .null else (Value.ofJson? text).getD (.text text)

/-- What is found at a place. -/
def fetch (p : Place) : IO (Place × Found Value) := do
  try
    return (p, .file (readDocument (← IO.FS.readFile p.text)))
  catch _ =>
    return (p, .nothing)

/-- What is said about an error, where anything is said. -/
def Error.message : Error → String
  | help => "options: " ++ ", ".intercalate (flags.map Prod.fst)
  | usage text => "error: " ++ text
  | settings e => e.message?.getD "the settings cannot be read"
  | document e => e.message?.getD "the document cannot be read"
  | level => "the level of logging is not known"
  | failure f => f.text
  | sheet (.markup (.stray _)) => "a name ends a style that nothing began"
  | sheet (.markup (.unreadable _)) => "a name says what to do on a click in a way that cannot be read"
  | sheet (.markup (.noShare _)) => "a name has a colour that misses one of its shares"
  | sheet (.cut _) => "a name does not fit and cannot be cut"

/-- The exit code of an error. -/
def Error.exitCode : Error → UInt32
  | help => 0
  | usage _ => 2
  | _ => 1

/-- A row of a table, its cells padded to the widths of their columns. -/
def paddedRow (widths : List Nat) (cells : List String) : String :=
  "  ".intercalate ((widths.zip cells).map fun (width, cell) => cell.pushn ' ' (width - Text.cells cell.toList))

/-- The lines of a table. -/
def Table.lines (t : Table) : List String :=
  let all := t.heading :: t.rows
  let widths := (List.range t.heading.length).map fun i =>
    (all.map fun row => Text.cells (row[i]?.getD "").toList).foldl max 0
  all.map (paddedRow widths)

/-- The text of a report in its form. -/
def Sheet.text : Sheet → String
  | json text => text
  | table t tail => String.join ((t.lines ++ tail).map (· ++ "\n"))

end GoalPlanner.Offline

open GoalPlanner in
/-- Plans offline. -/
def main (args : List String) : IO UInt32 := do
  let environment ← IO.getEnv Offline.settingsVariable
  let found ← match Offline.Request.read args with
    | .ok q => (q.places environment).mapM Offline.fetch
    | .error _ => pure []
  let files : Document.Source := ⟨fun p => (found.lookup p).getD .nothing, fun _ => []⟩
  let run := Offline.run files environment args
  for r in run.log do
    if r.passes (run.threshold.getD Log.Setup.bare.threshold.toNat) then
      IO.println s!"[{r.level.name}] {r.logger}: {r.message}"
  match run.result with
  | .ok (report, sheet) =>
    IO.print sheet.text
    return report.exitCode.toUInt32
  | .error e =>
    IO.eprintln e.message
    return e.exitCode
