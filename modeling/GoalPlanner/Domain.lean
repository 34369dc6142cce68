import GoalPlanner.Step

/-!
# Planning domains

The actions and goals that one planning problem is about (`Domain`). Actions have distinct names, and so have goals;
`Domain.make?` first drops actions and goals that are listed twice and then refuses names that still occur twice.
-/

namespace GoalPlanner

/-- Why a planning domain is refused, or a name not found in it. -/
inductive DomainError
  | duplicateAction (name : String)
  | duplicateGoal (name : String)
  | noAction (name : String)
  | noGoal (name : String)
  deriving DecidableEq, Repr

/-- The wording of the error. -/
def DomainError.message : DomainError → String
  | duplicateAction name => s!"Duplicate action name '{name}' in planning system"
  | duplicateGoal name => s!"Duplicate goal name '{name}' in planning system"
  | noAction name => s!"No action named '{name}'"
  | noGoal name => s!"No goal named '{name}'"

/-- The members of a list without repetitions up to `same`; the first of each stays. -/
def distinctBy {α : Type} (same : α → α → Bool) (xs : List α) : List α :=
  xs.foldl (fun kept x => if kept.any (same x) then kept else kept ++ [x]) []

/-- The first member of a list that occurs again later. -/
def firstRepeated : List String → Option String
  | [] => none
  | x :: r => if r.contains x then some x else firstRepeated r

theorem nodup_of_firstRepeated {xs : List String} (h : firstRepeated xs = none) : xs.Nodup := by
  induction xs with
  | nil => exact List.nodup_nil
  | cons x r ih =>
    simp only [firstRepeated] at h
    split at h
    · simp at h
    · rename_i hx
      exact List.nodup_cons.2 ⟨by simpa using hx, ih h⟩

/-- Actions with distinct names and goals with distinct names. -/
structure Domain (κ : Type) [Cost κ] where
  actions : List (Action κ)
  goals : List (Goal κ)
  actionNames : (actions.map Action.name).Nodup
  goalNames : (goals.map Goal.name).Nodup

namespace Domain

variable {κ : Type} [Cost κ]

/-- The planning domain of some actions and goals. -/
def make? (actions : List (Action κ)) (goals : List (Goal κ)) : Except DomainError (Domain κ) :=
  let as := distinctBy Action.same actions
  let gs := distinctBy Goal.same goals
  match ha : firstRepeated (as.map Action.name) with
  | some name => .error (.duplicateAction name)
  | none =>
    match hg : firstRepeated (gs.map Goal.name) with
    | some name => .error (.duplicateGoal name)
    | none => .ok ⟨as, gs, nodup_of_firstRepeated ha, nodup_of_firstRepeated hg⟩

/-- The domain with other actions. -/
def withActions? (s : Domain κ) (actions : List (Action κ)) : Except DomainError (Domain κ) :=
  make? actions s.goals

/-- The domain with the actions of which `keep` holds. -/
def restrict (s : Domain κ) (keep : Action κ → Bool) : Domain κ :=
  ⟨s.actions.filter keep, s.goals, s.actionNames.sublist (List.filter_sublist.map _), s.goalNames⟩

/-- The domain with one of its goals, or any other, as the only goal. -/
def withGoal (s : Domain κ) (g : Goal κ) : Domain κ := ⟨s.actions, [g], s.actionNames, by simp⟩

/-- The action of a name. -/
def action? (s : Domain κ) (name : String) : Except DomainError (Action κ) :=
  (s.actions.find? fun a => a.name == name).elim (.error (.noAction name)) .ok

/-- The goal of a name. -/
def goal? (s : Domain κ) (name : String) : Except DomainError (Goal κ) :=
  (s.goals.find? fun g => g.name == name).elim (.error (.noGoal name)) .ok

/-! ## Conditions -/

/-- The conditions that actions require. -/
def required (s : Domain κ) : List Name := (s.actions.flatMap fun a => a.pre.keys).eraseDups

/-- The conditions that actions bring about. -/
def affected (s : Domain κ) : List Name := (s.actions.flatMap fun a => a.eff.keys).eraseDups

/-- The conditions of which a state for this domain must say whether they hold. -/
def conditions (s : Domain κ) : List Name :=
  (s.required ++ s.affected ++ s.goals.flatMap fun g => g.pre.keys).eraseDups

/-! ## Text -/

/-- The domain, one name to a line. -/
def info (s : Domain κ) (indent : Nat) : String :=
  let pad := "".pushn ' ' indent
  let part (title : String) (names : List String) : List String :=
    (pad ++ title) :: names.map fun n => pad ++ "  " ++ n
  "\n".intercalate <|
    (pad ++ "GOAP system:") :: part " actions:" ((Action.byName s.actions).map Action.name)
      ++ part " goals:" ((Goal.byName s.goals).map Goal.name)
      ++ part " knownPreconditions:" ((Name.sort s.required).map Name.shown)
      ++ part " knownEffects:" ((Name.sort s.affected).map Name.shown)

end Domain

end GoalPlanner
