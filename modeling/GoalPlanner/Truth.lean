import GoalPlanner.Text.Blank
import GoalPlanner.Text.Letters.Small

/-!
# Truth values

A condition holds, does not hold, or is not known (`Truth`). The connectives are those of the strong three-valued logic:
a definite operand that decides the result decides it whatever the other one is (`and_no`, `or_yes`, …).
-/

namespace GoalPlanner

/-- What is known about a condition. -/
inductive Truth
  | yes
  | no
  | unknown
  deriving DecidableEq, Repr, Hashable, Inhabited

namespace Truth

/-- The truth values, in the order in which alternatives are listed. -/
def all : List Truth := [.yes, .no, .unknown]

theorem mem_all (t : Truth) : t ∈ all := by cases t <;> simp [all]

/-! ## Names and words -/

/-- The name under which a truth value is printed. -/
def name : Truth → String
  | yes => "TRUE"
  | no => "FALSE"
  | unknown => "UNKNOWN"

/-- The word by which a document states a truth value. -/
def word : Truth → String
  | yes => "true"
  | no => "false"
  | unknown => "unknown"

instance : ToString Truth := ⟨name⟩

/-- The truth value that a text states: its word, in any case, blanks around it aside. -/
def ofWord? (s : String) : Option Truth :=
  let w := Text.toSmall (String.ofList (Text.trim s.toList))
  all.find? fun t => t.word == w

/-! ## Decided and undecided -/

/-- A decided condition, or one of which nothing is known. -/
def ofOption : Option Bool → Truth
  | some true => yes
  | some false => no
  | none => unknown

/-- A decided condition. -/
def ofBool (b : Bool) : Truth := ofOption (some b)

/-- The truth value with "not known" read as "does not hold". -/
def definite : Truth → Truth
  | yes => yes
  | _ => no

/-! ## Connectives -/

/-- Negation; what is not known stays so. -/
protected def not : Truth → Truth
  | yes => no
  | no => yes
  | unknown => unknown

/-- Conjunction. -/
protected def and : Truth → Truth → Truth
  | no, _ => no
  | _, no => no
  | yes, yes => yes
  | _, _ => unknown

/-- Disjunction. -/
protected def or : Truth → Truth → Truth
  | yes, _ => yes
  | _, yes => yes
  | no, no => no
  | _, _ => unknown

/-- Whether a truth value is the one of an undecided condition; always decided. -/
def isUnknown (t : Truth) : Truth := ofBool (t == unknown)

@[simp] theorem no_and (t : Truth) : no.and t = no := by cases t <;> rfl

@[simp] theorem and_no (t : Truth) : t.and no = no := by cases t <;> rfl

@[simp] theorem yes_or (t : Truth) : yes.or t = yes := by cases t <;> rfl

@[simp] theorem or_yes (t : Truth) : t.or yes = yes := by cases t <;> rfl

theorem not_and (s t : Truth) : (s.and t).not = s.not.or t.not := by cases s <;> cases t <;> rfl

end Truth

end GoalPlanner
