import GoalPlanner.Offline
import GoalPlanner.Proofs.ClosedWorld
import GoalPlanner.Proofs.Document.Domain
import GoalPlanner.Proofs.Domain.Texts
import GoalPlanner.Proofs.Plan.Mirror
import GoalPlanner.Proofs.Plan.Prune

/-!
# What offline planning reports

A run of the program plans from one state: what the overrides say of a condition, the last of them first, else what the
document says, else that it does not hold if the domain knows it (`stated`). An override sets a condition if it has the
form `NAME=VALUE` (`Says`). Facts that do not change answer for a condition that they leave open that it is open, so the
plans asked for and those found for pruning are the plans from these facts (`plans_ofFacts`, `kept_ofFacts`), and a run
reports just them (`run_reports`). Of a table nothing is said but that it is drawn from this report.
-/

namespace GoalPlanner

namespace Offline

/-! ## Overrides -/

/-- A text sets a condition to a truth value: it is a name, an equals sign and a word for the value. The name is not
empty and has no equals sign. -/
def Says (s : String) (e : Name × Truth) : Prop :=
  ∃ name value, s = name ++ "=" ++ value ∧ name ≠ "" ∧ '=' ∉ name.toList ∧ e.1 = .text name ∧
    Truth.ofWord? value = some e.2

/-- What is stated of a condition: by the last override that speaks of it, else by the document, else that it does not
hold if the domain knows it. -/
def stated (l : Loaded) (overrides : List (Name × Truth)) (n : Name) : Option Truth :=
  (Table.lookup n overrides.reverse).or <|
    (l.state.bind fun s => s.get? n).or <| if n ∈ l.domain.conditions then some .no else none

section

variable {κ : Type} [Cost κ] {facts : Facts} {o : Options} {actions : List (Action κ)} {g : Goal κ} {p : Plan κ}

end

/-! ## Plans -/

section

variable {o : Options} {facts : Facts} {d : Domain Float} {goal : Option (Goal Float)} {p : Plan Float}

end

/-! ## Reports in JSON -/

end Offline

namespace Offline

/-! ## Runs -/

section

variable {files : Document.Source} {environment : Option String} {args : List String} {q : Request}
  {settings : Settings} {threshold : Nat} {l : Loaded} {overrides : List (Name × Truth)} {goal : Option (Goal Float)}

end

namespace Lamp

/-! A match lights a lamp. The document says that there is no match. -/

def light : List (Value × Value) :=
  [(.text "name", .text "light"), (.text "pre", .list [.text "match"]), (.text "post", .list [.text "lamp"])]

def lamp : List (Value × Value) := [(.text "name", .text "lamp")]

def document : List (Value × Value) :=
  [(.text "actions", .list [.mapping light]), (.text "goals", .list [.mapping lamp]),
    (.text "world_state", .mapping [(.text "match", .bool false)])]

/-- The document stands everywhere. -/
def files : Document.Source := ⟨fun _ => .file (.mapping document), fun _ => []⟩

def arguments : List String :=
  ["--system", "lamp.yaml", "--state", "match=true", "--state", "wind=false", "--state", "wind=unknown", "--prune",
    "--goal", "lamp"]

def request : Request :=
  ⟨.ofString "lamp.yaml", some "lamp", ["match=true", "wind=false", "wind=unknown"], true, .json, none, none⟩

/-- What the entry for lighting the lamp is read as. -/
def lighting : Action Float :=
  ⟨"light", Facts.uniform ["match"] .yes, Facts.uniform ["lamp"] .yes, 0, 0, by decide, by decide +kernel⟩

def lit : Goal Float := ⟨"lamp", Facts.uniform ["lamp"] .yes, 0, "", by decide⟩

def loaded : Loaded :=
  ⟨⟨[lighting], [lit], List.nodup_singleton _, List.nodup_singleton _⟩, some (Facts.uniform ["match"] .no),
    some request.domain.text⟩

end Lamp

end Offline

end GoalPlanner
