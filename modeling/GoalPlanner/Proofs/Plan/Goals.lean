import GoalPlanner.Proofs.Plan.Best
import GoalPlanner.Proofs.Plan.Mirror
import Mathlib

/-!
# Plans to all goals

Planning takes actions and goals by name, so it does not matter in which order a domain lists them
(`plansToGoals_reordered`). Goals have distinct names, so the plans to those that have one are in strict order by rank
(`sorted_rank_filterMap`), and the first of them gains the most (`netValue_le_of_head?`). Over a resolver that does not
change, planning to all goals comes to just these plans (`plansToGoals_complete`).
-/

namespace GoalPlanner

/-! ## Orders of listing -/

section

variable {σ κ : Type} [Cost κ] {as bs : List (Action κ)}

/-- The search for a plan depends on the actions by name. -/
theorem find_of_byName_eq (h : Action.byName as = Action.byName bs) (o : Options) (start : Facts) (g : Goal κ) :
    find o start as g = find o start bs g := by
  have hp : g.problem (.ofFacts start) as = g.problem (.ofFacts start) bs := by
    rw [Goal.problem, Goal.problem, h]
  rw [find, find, hp]

theorem planToGoal_of_byName_eq (h : Action.byName as = Action.byName bs) (r : Resolver σ) (o : Options)
    (g : Goal κ) : planToGoal r o as g = planToGoal r o bs g := by
  simp only [planToGoal, deliberate, find_of_byName_eq h]

theorem plansInTurn_of_byName_eq (h : Action.byName as = Action.byName bs) (r : Resolver σ) (o : Options)
    (gs : List (Goal κ)) : plansInTurn r o as gs = plansInTurn r o bs gs := by
  induction gs with
  | nil => rfl
  | cons g gs ih => rw [plansInTurn, plansInTurn, planToGoal_of_byName_eq h, ih]

/-- Planning to all goals is the same however the actions and the goals of a domain are listed. -/
theorem plansToGoals_reordered {d e : Domain κ} (hactions : e.actions.Perm d.actions) (hgoals : e.goals.Perm d.goals)
    (r : Resolver σ) (o : Options) : plansToGoals r o e = plansToGoals r o d := by
  have ha : Action.byName e.actions = Action.byName d.actions :=
    mergeSort_eq_of_perm Action.name e.actionNames hactions
  have hg : Goal.byName e.goals = Goal.byName d.goals := mergeSort_eq_of_perm Goal.name e.goalNames hgoals
  rw [plansToGoals, plansToGoals, hg, plansInTurn_of_byName_eq ha]

theorem perm_byName (gs : List (Goal κ)) : (Goal.byName gs).Perm gs := List.mergeSort_perm gs _

end

/-! ## Plans to goals of distinct names -/

section

variable {κ : Type} [Cost κ] {plan : Goal κ → Option (Plan κ)} {gs : List (Goal κ)}

theorem goal_of_planned {o : Options} {start : Facts} {answer : Name → Truth} {actions : List (Action κ)} {g : Goal κ}
    {p : Plan κ} (h : planned o start answer actions g = some p) : p.goal = g := by
  rw [planned] at h
  split at h <;> exact goal_of_plan? h

/-- If goals have distinct names, so have those of their plans. -/
theorem nodup_names_filterMap (hd : (gs.map Goal.name).Nodup) (hplan : ∀ g p, plan g = some p → p.goal = g) :
    ((gs.filterMap plan).map fun p => p.goal.name).Nodup := by
  refine hd.sublist ?_
  have hnames : (gs.filterMap plan).map (fun p => p.goal.name) =
      (gs.filter fun g => (plan g).isSome).map Goal.name := by
    induction gs with
    | nil => rfl
    | cons g gs ih =>
      have ih := ih (List.nodup_cons.1 hd).2
      cases hp : plan g with
      | none => simp [hp, ih]
      | some p => simp [hp, ih, hplan g p hp]
  rw [hnames]
  exact List.filter_sublist.map _

end

/-- Whether a plan gains more than another, or the same for a goal of an earlier name. -/
def Plan.Precedes (p q : Plan Rat) : Prop :=
  q.netValue < p.netValue ∨ p.netValue = q.netValue ∧ p.goal.name < q.goal.name

theorem Plan.precedes_iff {p q : Plan Rat} : p.Precedes q ↔ p.standing < q.standing := by
  rw [Plan.Precedes, Plan.standing, Plan.standing, Prod.Lex.toLex_lt_toLex, neg_lt_neg_iff, neg_inj]

/-- Plans to goals of distinct names are in strict order by rank. -/
theorem sorted_rank_filterMap {plan : Goal Rat → Option (Plan Rat)} {gs : List (Goal Rat)}
    (hd : (gs.map Goal.name).Nodup) (hplan : ∀ g p, plan g = some p → p.goal = g) :
    (rank (gs.filterMap plan)).Pairwise Plan.Precedes := by
  have hnames : ((rank (gs.filterMap plan)).map fun p => p.goal.name).Nodup :=
    ((perm_rank _).map _).nodup_iff.2 (nodup_names_filterMap hd hplan)
  rw [List.Nodup, List.pairwise_map] at hnames
  -- plans of one standing would be to goals of one name
  refine (pairwise_rank _).imp₂ (fun p q hle hne => ?_) hnames
  exact Plan.precedes_iff.2 (lt_of_le_of_ne hle fun he => hne (Plan.standing_inj.1 he).2)

theorem netValue_le_of_head? {ps : List (Plan Rat)} (hs : ps.Pairwise Plan.Precedes) {p q : Plan Rat}
    (hp : ps.head? = some p) (hq : q ∈ ps) : q.netValue ≤ p.netValue := by
  cases ps with
  | nil => cases hp
  | cons x ps =>
    cases hp
    rcases List.mem_cons.1 hq with rfl | hq
    · exact le_refl _
    · rcases (List.pairwise_cons.1 hs).1 q hq with h | ⟨h, -⟩
      · exact h.le
      · exact h.ge

/-! ## Planning to all goals -/

/-- Ranking loses nothing. Over a resolver that does not change and leaves at most one condition open, planning to a
goal comes to the same whenever it is done, a plan to this goal or none. Planning to all goals of a domain then comes to
just these plans, each once, those that gain more first and those that gain the same by the names of their goals, and
comes to the same list however the actions and goals of the domain are listed. The best plan is the first of them: there
is none only if no goal has one, and no plan gains more. -/
theorem plansToGoals_complete {σ : Type} {r : Resolver σ} {kind : σ → Prop} {start : Facts} {answer : Name → Truth}
    (h : r.Fixed kind start answer)
    (hone : ∀ m n, start.get? m = some .unknown → start.get? n = some .unknown → m = n) (o : Options) (d : Domain Rat) :
    ∃ (plan : Goal Rat → Option (Plan Rat)) (ps : List (Plan Rat)),
      (∀ g s, kind s.world → ∃ t, (planToGoal r o d.actions g).outcome s = (.ok (plan g), t) ∧ kind t.world) ∧
      (∀ g p, plan g = some p → p.goal = g) ∧
      ps.Perm (d.goals.filterMap plan) ∧ ps.Pairwise Plan.Precedes ∧
      (∀ e : Domain Rat, e.actions.Perm d.actions → e.goals.Perm d.goals → ∀ s : Session σ, kind s.world →
        (∃ t, (plansToGoals r o e).outcome s = (.ok ps, t) ∧ kind t.world) ∧
        ∃ t, (bestPlan r o e).outcome s = (.ok ps.head?, t) ∧ kind t.world) ∧
      (ps.head? = none ↔ ∀ g ∈ d.goals, plan g = none) ∧
      ∀ p ∈ ps.head?, ∀ q ∈ ps, q.netValue ≤ p.netValue := by
  have hone : start.unknowns.length ≤ 1 := Facts.length_unknowns_le_one hone
  have hplan : ∀ g p, planned o start answer d.actions g = some p → p.goal = g := fun _ _ => goal_of_planned
  have hperm : (rank ((Goal.byName d.goals).filterMap (planned o start answer d.actions))).Perm
      (d.goals.filterMap (planned o start answer d.actions)) :=
    (perm_rank _).trans ((perm_byName d.goals).filterMap _)
  have hsorted := sorted_rank_filterMap (((perm_byName d.goals).map Goal.name).nodup_iff.2 d.goalNames) hplan
  refine ⟨planned o start answer d.actions, _, fun g s hs => h.outcome_planToGoal_eq hone o d.actions g hs, hplan,
    hperm, hsorted, fun e ha hg s hs => ?_, ?_, fun p hp q => netValue_le_of_head? hsorted hp⟩
  · obtain ⟨t, ht, hk⟩ := h.outcome_plansToGoals_eq hone o d hs
    rw [bestPlan, plansToGoals_reordered ha hg]
    refine ⟨⟨t, ht, hk⟩, t, ?_, hk⟩
    rw [Effect.outcome_bind_of_ok ht]
    rfl
  · rw [List.head?_eq_none_iff, ← List.length_eq_zero_iff, hperm.length_eq, List.length_eq_zero_iff,
      List.filterMap_eq_nil_iff]

namespace Shop

/-- The domain listed the other way round. -/
def turned : Domain Rat := ⟨[take, deliver, build, notify], [receipt, goods], by decide, by decide⟩

theorem unknowns_start : start.unknowns = [] := by
  cbv

/-- Planning to a goal comes to what the search for it comes to. -/
theorem plan_eq {x : Option (Plan Rat)} {g : Goal Rat} {t : Session Unit}
    (h : (planToGoal resolver ⟨100, true⟩ domain.actions g).outcome ⟨(), #[]⟩ = (.ok x, t)) :
    x = plan? ⟨100, true⟩ start domain.actions g := by
  have hstate : resolver.state.outcome ⟨(), #[]⟩ = (.ok start, ⟨(), #[]⟩) := rfl
  rw [outcome_planToGoal hstate, verdict_of_known unknowns_start] at h
  cases h
  rfl

end Shop

open Shop in
/-- Whichever way the domain is listed, delivering the goods comes before getting a receipt. -/
theorem plansToGoals_complete_shop : ∃ t, (plansToGoals resolver ⟨100, true⟩ turned).outcome ⟨(), #[]⟩ =
    (.ok [⟨[build, deliver], goods, start⟩, ⟨[take], receipt, start⟩], t) := by
  have hknown := Facts.ne_unknown_of_unknowns_eq_nil unknowns_start
  obtain ⟨plan, ps, hplan, -, hperm, hsorted, hlisted, -, -⟩ := plansToGoals_complete
    (Resolver.fixed_return start .no) (fun m _ hm _ => absurd hm (hknown m)) ⟨100, true⟩ domain
  have hg : plan goods = some ⟨[build, deliver], goods, start⟩ := by
    obtain ⟨_, h, -⟩ := hplan goods ⟨(), #[]⟩ trivial
    rw [plan_eq h]
    exact plan?_of_readOff search_goods (by decide)
  have hr : plan receipt = some ⟨[take], receipt, start⟩ := by
    obtain ⟨_, h, -⟩ := hplan receipt ⟨(), #[]⟩ trivial
    rw [plan_eq h]
    exact plan?_of_readOff search_receipt (by decide)
  have hps : ps = [⟨[build, deliver], goods, start⟩, ⟨[take], receipt, start⟩] := by
    have hgoals : domain.goals.filterMap plan = [⟨[build, deliver], goods, start⟩, ⟨[take], receipt, start⟩] := by
      simp [domain, hg, hr]
    rw [hgoals] at hperm
    refine hperm.eq_of_pairwise (fun p q _ _ hpq hqp => ?_) hsorted ?_
    · exact absurd (Plan.precedes_iff.1 hpq) (lt_asymm (Plan.precedes_iff.1 hqp))
    · norm_num [Plan.Precedes, Plan.netValue, Plan.actionsValue, Plan.cost, goods, receipt, build, deliver, take]
  obtain ⟨⟨t, ht, -⟩, -⟩ := hlisted turned (List.reverse_perm domain.actions) (List.reverse_perm domain.goals)
    ⟨(), #[]⟩ trivial
  exact ⟨t, hps ▸ ht⟩

end GoalPlanner
