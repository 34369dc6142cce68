import GoalPlanner.Name
import GoalPlanner.Table
import GoalPlanner.Truth

/-!
# Facts

What is known, required or brought about: a truth value for each of finitely many conditions (`Facts`). As a state of
the world, facts can be varied one condition at a time (`variants`, `oneChange`); as a requirement they are met by a
state that agrees with all of them (`Facts.meets`, `meets_iff`).
-/

namespace GoalPlanner

/-- Truth values of conditions, in the order in which the conditions were first mentioned. -/
abbrev Facts := Table Name Truth

namespace Facts

/-- All the given conditions with one truth value. -/
def uniform (names : List Name) (t : Truth) : Facts := Table.ofList (names.map fun n => (n, t))

/-- The entries by name. -/
def sorted (s : Facts) : List (Name × Truth) := s.entries.mergeSort fun a b => !b.1.before a.1

/-- Whether a state has each of the required values; a missing condition meets no requirement. -/
def meets (s required : Facts) : Bool := required.entries.all fun e => s.get? e.1 == some e.2

theorem meets_iff {s required : Facts} :
    s.meets required = true ↔ ∀ n t, required.get? n = some t → s.get? n = some t := by
  simp only [meets, List.all_eq_true, beq_iff_eq, Prod.forall, Table.get?_eq_some_iff (t := required)]

/-! ## Unknown conditions and variants -/

/-- The conditions whose truth is not known, by name. -/
def unknowns (s : Facts) : List Name :=
  Name.sort ((s.entries.filter fun e => e.2 == .unknown).map Prod.fst)

/-- The state with a condition decided in either way. -/
def variants (s : Facts) (c : Name) : List Facts := [s.set c .yes, s.set c .no]

/-- All states with the same conditions in which just one of them has another value. -/
def oneChange (s : Facts) : List Facts :=
  s.entries.flatMap fun e => (Truth.all.filter fun t => t != e.2).map fun t => s.set e.1 t

/-! ## Text -/

/-- One entry: `name=VALUE`. -/
def entryText (e : Name × Truth) : String := e.1.shown ++ "=" ++ e.2.name

/-- The entries by name, separated by commas. -/
def listing (s : Facts) : String := ", ".intercalate (s.sorted.map entryText)

/-- A requirement or an effect in braces. -/
def braced (s : Facts) : String := "\x7b" ++ s.listing ++ "\x7d"

/-- A state of the world as messages show it. -/
def stateText (s : Facts) : String := "WorldState(" ++ s.listing ++ ")"

end Facts

end GoalPlanner
