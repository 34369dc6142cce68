import GoalPlanner.Domain
import GoalPlanner.Value

/-!
# Refusals of documents

Why a document is not read (`DocumentError`) and what is said about it (`DocumentError.message?`).
-/

namespace GoalPlanner

/-- Why a document is refused. -/
inductive DocumentError
  /-- A value that states no truth value. -/
  | notTruth (v : Value)
  /-- Condition values that are no mapping. -/
  | notConditions (v : Value)
  /-- An entry without a name, among the actions or the goals. -/
  | unnamed (part : String) (entry : Value)
  /-- An entry that makes no action or goal. -/
  | step (e : StepError)
  /-- Names that several entries share, as a text, and the document if it has a place. -/
  | repeated (part : String) (names : List String) (source : Option String)
  /-- The entries do not make a domain. -/
  | domain (e : DomainError)
  /-- A text that spells no number. -/
  | notNumber
  /-- An integer beyond the range of floats. -/
  | tooLarge
  /-- A value that cannot be used where it stands. -/
  | misplaced
  /-- An entry of which no fields can be asked for. -/
  | noFields
  /-- No file at the place of a domain. -/
  | noDomain (place : String)
  /-- No directory at the place of domains. -/
  | noDirectory (place : String)
  /-- A directory where a file is expected. -/
  | isDirectory
  /-- The path to a document is too long. -/
  | tooLong
  /-- A document that is no mapping. -/
  | notDocument (place : String) (v : Value)

namespace DocumentError

/-- The list of some texts in quotes. -/
def quotedList (xs : List String) : String := "[" ++ ", ".intercalate (xs.map Text.quoted) ++ "]"

/-- What is said about a refusal, where anything is said. -/
def message? : DocumentError → Option String
  | notTruth v => "Cannot interpret " ++ v.literal ++ " as a condition value"
  | notConditions v => "Expected mapping of condition values, got " ++ v.kindText
  | unnamed part entry => part ++ " entry without a name: " ++ entry.literal
  | step e => e.message
  | repeated part names source =>
    "Duplicate " ++ part ++ " name(s) " ++ quotedList names ++ (source.elim "" fun s => s!" in '{s}'")
  | domain e => e.message
  | noDomain place => s!"Planning system file does not exist: {place}"
  | noDirectory place => s!"Systems directory does not exist: {place}"
  | notDocument place v => s!"Expected mapping at top of {place}, got " ++ v.kindText
  | _ => none

end DocumentError

end GoalPlanner
