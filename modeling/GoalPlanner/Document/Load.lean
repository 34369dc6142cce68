import GoalPlanner.Document.Place
import GoalPlanner.Document.Domain
import GoalPlanner.Settings

/-!
# Loading documents

Domains and settings read from the place where they stand. A file without a document counts as an empty one. `Source` is
what can be asked about places; a directory tree is one (`Source.ofTree`).
-/

namespace GoalPlanner.Document

/-- Where documents come from. -/
structure Source where
  locate : Place → Found Value
  /-- The names directly below a directory, in increasing order. -/
  names : Place → List String

/-- The documents of a directory tree. -/
def Source.ofTree (t : Tree Value) : Source := ⟨t.locate, t.names⟩

/-- The domain that a place holds. -/
def loadDomain (files : Source) (p : Place) : Except DocumentError Loaded :=
  match files.locate p with
  | .nothing => .error (.noDomain p.text)
  | .directory => .error .isDirectory
  | .beyond => .error .tooLong
  | .file .null => readDomain [] (some p.text)
  | .file (.mapping fields) => readDomain fields (some p.text)
  | .file v => .error (.notDocument p.text v)

/-- Whether a name is one of a document. -/
def isDocumentName (name : String) : Bool := name.endsWith ".yaml"

/-- The domains directly below a directory, by name without ending. -/
def loadDomains (files : Source) (p : Place) : Except DocumentError (Table String Loaded) :=
  match files.locate p with
  | .nothing => .error (.noDirectory p.text)
  | .beyond => .error .tooLong
  | _ => do
    let loaded ← ((files.names p).filter isDocumentName).mapM fun name => do
      return (Place.stem name, ← loadDomain files (p.child name))
    return Table.ofList loaded

/-- The settings that a place holds. -/
def loadSettings (files : Source) (p : Place) : Except Settings.Error Settings :=
  match files.locate p with
  | .nothing => .error (.noFile p.text)
  | .directory => .error .isDirectory
  | .beyond => .error .tooLong
  | .file v =>
    if v.isTrue then
      match v with
      | .mapping fields => Settings.read fields
      | v => .error (.notDocument p.text v)
    else Settings.read []

/-- The settings at the first place that is given: a place asked for, or one from the environment unless it is empty;
without either, the usual ones. -/
def chooseSettings (files : Source) (asked : Option Place) (environment : Option String) :
    Except Settings.Error Settings :=
  match asked, environment with
  | some p, _ => loadSettings files p
  | none, some text => if text == "" then .ok .usual else loadSettings files (Place.ofString text)
  | none, none => .ok .usual

end GoalPlanner.Document
