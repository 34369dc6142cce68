import GoalPlanner.Proofs.Plan.Choice
import Mathlib

/-!
# Resolvers that do not change

A resolver is fixed (`Resolver.Fixed`) if it supplies the same state and gives the same answers whenever it is used.
Planning over it, with at most one condition not known, then comes to the same plan whenever it is done (`planned`,
`Resolver.Fixed.outcome_planToGoal_eq`). This takes the course of the plan from the state with the answer filled in
(`Facts.answered`), whether the resolver is asked or not (`map_course_planned`): where it is not asked, the plans from
the state and from both variants have one shape, and the state with the answer is one of these. So planning to all goals
and pruning come to an end as well (`Resolver.Fixed.outcome_plansToGoals`, `Resolver.Fixed.outcome_prune`).
-/

namespace GoalPlanner

/-! ## Answers -/

namespace Facts

/-- The state with the answers filled in for the conditions that it leaves open. -/
def answered (s : Facts) (answer : Name → Truth) : Facts := s.unknowns.foldl (fun t c => t.set c (answer c)) s

variable {s : Facts} {c : Name}

theorem answered_of_known (h : s.unknowns = []) (answer : Name → Truth) : s.answered answer = s := by
  rw [answered, h, List.foldl_nil]

theorem answered_of_open (h : s.unknowns = [c]) (answer : Name → Truth) : s.answered answer = s.set c (answer c) := by
  rw [answered, h, List.foldl_cons, List.foldl_nil]

/-- Where one condition is open, the state with the answer is a variant, or the state itself if the answer leaves the
condition open. -/
theorem answered_mem (h : s.unknowns = [c]) (answer : Name → Truth) : s.answered answer ∈ s :: s.variants c := by
  rw [answered_of_open h]
  by_cases ha : answer c = .unknown
  · have hc : s.get? c = some .unknown := mem_unknowns.1 (h ▸ List.mem_singleton_self c)
    rw [ha, Table.set_eq_self hc]
    exact List.mem_cons_self
  · exact List.mem_cons_of_mem _ (mem_variants_of_ne_unknown ha)

end Facts

variable {σ κ : Type} [Cost κ] {o : Options} {actions : List (Action κ)} {g : Goal κ}

/-! ## Courses -/

/-- What a plan is for and what it does, from whatever state. -/
def Plan.course (p : Plan κ) : Goal κ × List (Action κ) := (p.goal, p.actions)

theorem goal_of_plan? {start : Facts} {p : Plan κ} (h : plan? o start actions g = some p) : p.goal = g := by
  rw [plan?_eq] at h
  obtain ⟨way, -, rfl⟩ := Option.map_eq_some_iff.1 h
  rfl

/-- Plans of one shape for actions of distinct names take one course. -/
theorem map_course_eq_of_map_shape_eq {s t : Facts} (hd : (actions.map Action.name).Nodup)
    (h : (plan? o s actions g).map Plan.shape = (plan? o t actions g).map Plan.shape) :
    (plan? o s actions g).map Plan.course = (plan? o t actions g).map Plan.course := by
  have course (u : Facts) : (plan? o u actions g).map Plan.course =
      ((plan? o u actions g).map Plan.actions).map fun as => (g, as) := by
    cases hp : plan? o u actions g with
    | none => rfl
    | some p => simp [Plan.course, goal_of_plan? hp]
  rw [course s, course t, map_actions_eq_of_map_shape_eq hd h]

/-- Plans that take the courses of the plans found from a state to some goals, one after the other. -/
def Follow (o : Options) (start : Facts) (actions : List (Action κ)) (gs : List (Goal κ)) (ps : List (Plan κ)) :
    Prop :=
  ps.map Plan.course = gs.filterMap fun g => (plan? o start actions g).map Plan.course

/-- What planning comes to if the conditions asked for are answered so: the plan from the state, or from the state with
the answer filled in where the verdict is to ask. -/
def planned (o : Options) (start : Facts) (answer : Name → Truth) (actions : List (Action κ)) (g : Goal κ) :
    Option (Plan κ) :=
  match (deliberate o start actions g).verdict with
  | .ask _ => plan? o (start.answered answer) actions g
  | _ => plan? o start actions g

/-- Where at most one condition is open, either planning is settled by the plan from the state, whose shape is that of
the plan from the state with the answer filled in, or the one condition that is open is asked for. -/
theorem verdict_cases {start : Facts} (hone : start.unknowns.length ≤ 1) (answer : Name → Truth) (o : Options)
    (actions : List (Action κ)) (g : Goal κ) :
    ((deliberate o start actions g).verdict = .settled (plan? o start actions g) ∧
        (plan? o start actions g).map Plan.shape = (plan? o (start.answered answer) actions g).map Plan.shape) ∨
      ∃ c, start.get? c = some .unknown ∧ start.answered answer = start.set c (answer c) ∧
        (deliberate o start actions g).verdict = .ask c := by
  match hu : start.unknowns with
  | [] =>
    rw [Facts.answered_of_known hu]
    exact .inl ⟨verdict_of_known hu, rfl⟩
  | [c] =>
    by_cases ha : Agree o start c actions g
    · exact .inl ⟨verdict_of_agree hu ha, ha _ List.mem_cons_self _ (Facts.answered_mem hu answer)⟩
    · exact .inr ⟨c, Facts.mem_unknowns.1 (hu ▸ List.mem_singleton_self c), Facts.answered_of_open hu answer,
        verdict_of_differ hu ha⟩
  | c :: d :: cs => simp [hu] at hone

/-- Planning takes the course of the plan from the state with the answer filled in. -/
theorem map_course_planned {start : Facts} (hone : start.unknowns.length ≤ 1) (hd : (actions.map Action.name).Nodup)
    (answer : Name → Truth) (o : Options) (g : Goal κ) :
    (planned o start answer actions g).map Plan.course =
      (plan? o (start.answered answer) actions g).map Plan.course := by
  rcases verdict_cases hone answer o actions g with ⟨hv, hshape⟩ | ⟨c, -, -, hv⟩ <;> rw [planned, hv]
  exact map_course_eq_of_map_shape_eq hd hshape

theorem follow_planned {start : Facts} (hone : start.unknowns.length ≤ 1) (hd : (actions.map Action.name).Nodup)
    (answer : Name → Truth) (o : Options) (gs : List (Goal κ)) :
    Follow o (start.answered answer) actions gs (gs.filterMap (planned o start answer actions)) := by
  rw [Follow, List.map_filterMap]
  exact List.filterMap_congr fun g _ => map_course_planned hone hd answer o g

/-! ## Fixed resolvers -/

/-- A resolver that supplies one state, and one answer for each condition that the state leaves open, from any world
of some kind; it leaves a world of that kind. -/
structure Resolver.Fixed (r : Resolver σ) (kind : σ → Prop) (start : Facts) (answer : Name → Truth) : Prop where
  state : ∀ s : Session σ, kind s.world → ∃ t, kind t.world ∧ r.state.outcome s = (.ok start, t)
  ask : ∀ (s : Session σ) (c : Name), kind s.world → start.get? c = some .unknown →
    ∃ t, kind t.world ∧ (r.ask c).outcome s = (.ok (answer c), t)

/-- A resolver that always says the same. -/
theorem Resolver.fixed_return (start : Facts) (t : Truth) :
    Resolver.Fixed (σ := Unit) ⟨return start, fun _ => return t⟩ (fun _ => True) start fun _ => t :=
  ⟨fun s _ => ⟨s, trivial, rfl⟩, fun s _ _ _ => ⟨s, trivial, rfl⟩⟩

namespace Resolver.Fixed

variable {r : Resolver σ} {kind : σ → Prop} {start : Facts} {answer : Name → Truth} {s : Session σ}

/-- Planning comes to the same whenever it is done. -/
theorem outcome_planToGoal_eq (h : r.Fixed kind start answer) (hone : start.unknowns.length ≤ 1) (o : Options)
    (actions : List (Action κ)) (g : Goal κ) (hs : kind s.world) :
    ∃ t, (planToGoal r o actions g).outcome s = (.ok (planned o start answer actions g), t) ∧ kind t.world := by
  obtain ⟨t, ht, hstate⟩ := h.state s hs
  rw [GoalPlanner.outcome_planToGoal hstate, planned]
  rcases verdict_cases hone answer o actions g with ⟨hv, -⟩ | ⟨c, hc, hanswer, hv⟩ <;> rw [hv]
  · exact ⟨_, rfl, ht⟩
  · obtain ⟨u, hk, hask⟩ := h.ask
      { t with log := t.log ++ ((deliberate o start actions g).notes.map Note.record).toArray } c ht hc
    rw [conclude, Effect.outcome_bind_of_ok hask, hanswer]
    exact ⟨_, rfl, hk⟩

/-- Planning takes the course of the plan from the state with the answer filled in. -/
theorem outcome_planToGoal (h : r.Fixed kind start answer) (hone : start.unknowns.length ≤ 1)
    (hd : (actions.map Action.name).Nodup) (o : Options) (g : Goal κ) (hs : kind s.world) :
    ∃ x t, (planToGoal r o actions g).outcome s = (.ok x, t) ∧ kind t.world ∧
      x.map Plan.course = (plan? o (start.answered answer) actions g).map Plan.course := by
  obtain ⟨t, ht, hk⟩ := h.outcome_planToGoal_eq hone o actions g hs
  exact ⟨_, t, ht, hk, map_course_planned hone hd answer o g⟩

/-- Where there is a plan from the state with the answer filled in, planning comes to one that takes its course. -/
theorem course_of_outcome_planToGoal (h : r.Fixed kind start answer) (hone : start.unknowns.length ≤ 1)
    (hd : (actions.map Action.name).Nodup) {o : Options} {g : Goal κ} {p : Plan κ}
    (hp : plan? o (start.answered answer) actions g = some p) (hs : kind s.world) {x : Option (Plan κ)}
    (hx : ((planToGoal r o actions g).outcome s).1 = .ok x) : ∃ q, x = some q ∧ q.course = p.course := by
  obtain ⟨y, t, hy, -, hcourse⟩ := h.outcome_planToGoal hone hd o g hs
  rw [hy] at hx
  cases hx
  rw [hp] at hcourse
  exact Option.map_eq_some_iff.1 hcourse

/-- Planning to some goals in turn comes to the plans to those that have one. -/
theorem outcome_plansInTurn_eq (h : r.Fixed kind start answer) (hone : start.unknowns.length ≤ 1) (o : Options)
    (actions : List (Action κ)) (gs : List (Goal κ)) (hs : kind s.world) :
    ∃ t, (plansInTurn r o actions gs).outcome s = (.ok (gs.filterMap (planned o start answer actions)), t) ∧
      kind t.world := by
  induction gs generalizing s with
  | nil => exact ⟨s, rfl, hs⟩
  | cons g gs ih =>
    obtain ⟨t, hx, ht⟩ := h.outcome_planToGoal_eq hone o actions g hs
    obtain ⟨u, hps, hu⟩ := ih ht
    refine ⟨u, ?_, hu⟩
    rw [plansInTurn, Effect.outcome_bind_of_ok hx, Effect.outcome_bind_of_ok hps, List.filterMap_cons]
    cases planned o start answer actions g <;> rfl

/-- Planning to all goals comes to the plans to those that have one, by rank. -/
theorem outcome_plansToGoals_eq (h : r.Fixed kind start answer) (hone : start.unknowns.length ≤ 1) (o : Options)
    (d : Domain κ) (hs : kind s.world) :
    ∃ t, (plansToGoals r o d).outcome s =
        (.ok (rank ((Goal.byName d.goals).filterMap (planned o start answer d.actions))), t) ∧ kind t.world := by
  obtain ⟨t, hps, ht⟩ := h.outcome_plansInTurn_eq hone o d.actions (Goal.byName d.goals) hs
  refine ⟨t, ?_, ht⟩
  rw [plansToGoals, Effect.outcome_bind_of_ok hps]
  rfl

/-- Plans to all goals are those from the state with the answer filled in, by rank. -/
theorem outcome_plansToGoals (h : r.Fixed kind start answer) (hone : start.unknowns.length ≤ 1) (o : Options)
    (d : Domain κ) (hs : kind s.world) :
    ∃ ps t, (plansToGoals r o d).outcome s = (.ok (rank ps), t) ∧ kind t.world ∧
      Follow o (start.answered answer) d.actions (Goal.byName d.goals) ps := by
  obtain ⟨t, hps, ht⟩ := h.outcome_plansToGoals_eq hone o d hs
  exact ⟨_, t, hps, ht, follow_planned hone d.actionNames answer o _⟩

/-- Pruning keeps the actions in use by the plans to all goals. -/
theorem outcome_prune (h : r.Fixed kind start answer) (hone : start.unknowns.length ≤ 1) (o : Options)
    (d : Domain κ) (hs : kind s.world) :
    ∃ ps t u, (plansToGoals r o d).outcome s = (.ok (rank ps), t) ∧
      (prune r o d).outcome s = (.ok (d.restrict (inUse (rank ps))), u) ∧ kind u.world ∧
      Follow o (start.answered answer) d.actions (Goal.byName d.goals) ps := by
  obtain ⟨ps, t, hps, ht, hcourses⟩ := h.outcome_plansToGoals hone o d hs
  refine ⟨ps, t, { t with log := t.log ++ ([.pruning (rank ps)].map Note.record).toArray }, hps, ?_, ht, hcourses⟩
  rw [prune_eq, Effect.outcome_bind_of_ok hps]
  rfl

end Resolver.Fixed

end GoalPlanner
