import GoalPlanner.Proofs.Plan.Fixed
import GoalPlanner.Proofs.Plan.Ranking
import Mathlib

/-!
# Dropping actions that no plan uses

A cheapest sequence of actions stays cheapest when other actions are dropped (`Cheapest.of_subset`), and a search that
is not cut short finds a cheapest one if there is any. So over a fixed resolver pruning keeps for every goal whether
there is a plan and what it costs (`planToGoal_prune`): both plans take the course of the plan from the state with the
answer filled in, whether the resolver is asked over all actions, over those that are left, over both or over neither.
-/

namespace GoalPlanner

/-! ## Cheapest sequences -/

/-- A sequence of the given actions that achieves a goal and costs no more than any other one. -/
structure Cheapest (start : Facts) (actions : List (Action Rat)) (g : Goal Rat) (as : List (Action Rat)) : Prop where
  mem : ∀ a ∈ as, a ∈ actions
  achieves : achieves start as g = true
  le : ∀ bs : List (Action Rat), (∀ b ∈ bs, b ∈ actions) → GoalPlanner.achieves start bs g = true →
    Cost.sum (as.map Action.cost) ≤ Cost.sum (bs.map Action.cost)

section

variable {o : Options} {start : Facts} {actions fewer : List (Action Rat)} {g : Goal Rat} {as bs : List (Action Rat)}

theorem Cheapest.of_subset (h : Cheapest start actions g as) (hf : fewer ⊆ actions) (has : ∀ a ∈ as, a ∈ fewer) :
    Cheapest start fewer g as :=
  ⟨has, h.achieves, fun bs hbs => h.le bs fun b hb => hf (hbs b hb)⟩

theorem Cheapest.cost_eq (h : Cheapest start actions g as) (k : Cheapest start actions g bs) :
    Cost.sum (as.map Action.cost) = Cost.sum (bs.map Action.cost) :=
  le_antisymm (h.le bs k.mem k.achieves) (k.le as h.mem h.achieves)

/-- Where nothing is left waiting, the plan is a cheapest sequence. -/
theorem cheapest_of_plan? (hcut : (find o start actions g).cut = false) {p : Plan Rat}
    (hp : plan? o start actions g = some p) : Cheapest start actions g p.actions := by
  have hq : (find o start actions g).search.queue.toList = [] := by
    rw [← Bool.not_eq_true, cut_find_iff] at hcut
    exact not_not.1 hcut
  obtain ⟨hach, n, b, hb, hle⟩ := achieves_of_plan? hp
  refine ⟨mem_actions_of_plan? hp, hach, fun bs hbs hbach => ?_⟩
  obtain ⟨n', b', hb', hle'⟩ := best_le_of_achieves hq hbs hbach
  rw [hb] at hb'
  cases hb'
  exact le_trans hle hle'

/-- Where nothing is left waiting and there is a sequence that achieves the goal, there is a plan. -/
theorem exists_plan? (hcut : (find o start actions g).cut = false) (h : ∀ a ∈ as, a ∈ actions)
    (hach : achieves start as g = true) : ∃ p, plan? o start actions g = some p := by
  cases hp : plan? o start actions g with
  | some p => exact ⟨p, rfl⟩
  | none =>
    rw [not_achieves_of_plan?_eq_none hcut hp h] at hach
    cases hach

/-- Dropping actions that the plan does not use keeps whether there is a plan, and the plan found then is cheapest
over all actions. -/
theorem plan?_of_subset (hcut : (find o start actions g).cut = false) (hcut' : (find o start fewer g).cut = false)
    (hf : fewer ⊆ actions) (hused : ∀ p, plan? o start actions g = some p → ∀ a ∈ p.actions, a ∈ fewer) :
    (plan? o start actions g = none ∧ plan? o start fewer g = none) ∨
      ∃ p q, plan? o start actions g = some p ∧ plan? o start fewer g = some q ∧
        Cheapest start actions g p.actions ∧ Cheapest start actions g q.actions := by
  cases hp : plan? o start actions g with
  | none =>
    refine .inl ⟨rfl, Option.eq_none_iff_forall_ne_some.2 fun q hq => ?_⟩
    have hach := (achieves_of_plan? hq).1
    rw [not_achieves_of_plan?_eq_none hcut hp fun a ha => hf (mem_actions_of_plan? hq a ha)] at hach
    cases hach
  | some p =>
    have hpc := cheapest_of_plan? hcut hp
    have hpf := hpc.of_subset hf (hused p hp)
    obtain ⟨q, hq⟩ := exists_plan? hcut' hpf.mem hpf.achieves
    have hqf := cheapest_of_plan? hcut' hq
    refine .inr ⟨p, q, rfl, hq, hpc, fun a ha => hf (hqf.mem a ha), hqf.achieves, fun bs hbs hbach => ?_⟩
    exact (hqf.cost_eq hpf).trans_le (hpc.le bs hbs hbach)

end

/-! ## Actions in use -/

section

variable {κ : Type} [Cost κ] {o : Options} {start : Facts} {actions : List (Action κ)} {d : Domain κ}
  {ps : List (Plan κ)}

theorem Goal.mem_byName {g : Goal κ} {gs : List (Goal κ)} : g ∈ Goal.byName gs ↔ g ∈ gs := List.mem_mergeSort

/-- The actions in use are those of the courses that the plans follow. -/
theorem inUse_rank (ps : List (Plan κ)) :
    inUse (rank ps) = fun a => (ps.map Plan.course).any fun c => (c.2.map Action.name).contains a.name := by
  funext a
  rw [inUse, (perm_rank ps).any_eq, List.any_map]
  rfl

/-- The actions that are left are those of the plans. -/
theorem mem_restrict_inUse (h : ∀ p ∈ ps, ∀ a ∈ p.actions, a ∈ d.actions) {a : Action κ} :
    a ∈ (d.restrict (inUse ps)).actions ↔ ∃ p ∈ ps, a ∈ p.actions := by
  simp only [Domain.restrict, List.mem_filter, inUse, List.any_eq_true, List.contains_iff_mem, Plan.shape,
    List.mem_map]
  constructor
  · rintro ⟨ha, p, hp, b, hb, hname⟩
    exact ⟨p, hp, List.inj_on_of_nodup_map d.actionNames (h p hp b hb) ha hname ▸ hb⟩
  · rintro ⟨p, hp, ha⟩
    exact ⟨h p hp a ha, p, hp, a, ha, rfl⟩

theorem Follow.exists_iff {gs : List (Goal κ)} (h : Follow o start actions gs ps) (c : Goal κ × List (Action κ)) :
    (∃ p ∈ ps, p.course = c) ↔ ∃ g ∈ gs, ∃ q, plan? o start actions g = some q ∧ q.course = c := by
  have hc : c ∈ ps.map Plan.course ↔
      c ∈ gs.filterMap fun g => (plan? o start actions g).map Plan.course := by
    rw [Follow] at h
    rw [h]
  simpa using hc

/-- The actions that are left are those of the plans, by rank. -/
theorem Follow.mem_restrict (h : Follow o start d.actions (Goal.byName d.goals) ps) {a : Action κ} :
    a ∈ (d.restrict (inUse (rank ps))).actions ↔ ∃ p ∈ rank ps, a ∈ p.actions := by
  refine mem_restrict_inUse fun p hp a ha => ?_
  obtain ⟨g, -, q, hq, hc⟩ := (h.exists_iff p.course).1 ⟨p, mem_rank.1 hp, rfl⟩
  have hqa : q.actions = p.actions := congrArg Prod.snd hc
  exact mem_actions_of_plan? hq a (hqa ▸ ha)

/-- The actions of a plan to a goal of the domain are left. -/
theorem Follow.mem_restrict_of_plan? (h : Follow o start d.actions (Goal.byName d.goals) ps) {g : Goal κ}
    (hg : g ∈ d.goals) {p : Plan κ} (hp : plan? o start d.actions g = some p) :
    ∀ a ∈ p.actions, a ∈ (d.restrict (inUse (rank ps))).actions := by
  intro a ha
  obtain ⟨q, hq, hqc⟩ := (h.exists_iff p.course).2 ⟨g, Goal.mem_byName.2 hg, p, hp, rfl⟩
  have hqa : q.actions = p.actions := congrArg Prod.snd hqc
  exact h.mem_restrict.2 ⟨q, mem_rank.2 hq, hqa ▸ ha⟩

end

/-! ## Pruning -/

section Pruning

variable {σ : Type} {r : Resolver σ} {kind : σ → Prop} {start : Facts} {answer : Name → Truth} {s : Session σ}

/-- Pruning changes neither whether there is a plan to a goal nor what it costs. Over a fixed resolver that leaves at
most one condition open, pruning succeeds; it keeps the goals, and of the actions just those of the plans to all
goals. If the search from the state with the answer filled in, which is always one of the searches made, is cut short
neither over all actions nor over those that are left, then planning to a goal over all of them and over those that
are left both give no plan, or plans of one cost. -/
theorem planToGoal_prune (h : r.Fixed kind start answer)
    (hone : ∀ m n, start.get? m = some .unknown → start.get? n = some .unknown → m = n) (o : Options) (d : Domain Rat)
    (hs : kind s.world) :
    ∃ plans pruned t u, (plansToGoals r o d).outcome s = (.ok plans, t) ∧ (prune r o d).outcome s = (.ok pruned, u) ∧
      kind u.world ∧ pruned.goals = d.goals ∧ pruned.actions.Sublist d.actions ∧
      (∀ a, a ∈ pruned.actions ↔ ∃ p ∈ plans, a ∈ p.actions) ∧
      ∀ g ∈ d.goals, (find o (start.answered answer) d.actions g).cut = false →
        (find o (start.answered answer) pruned.actions g).cut = false →
        ∀ v w : Session σ, kind v.world → kind w.world →
          ∃ x y, ((planToGoal r o d.actions g).outcome v).1 = .ok x ∧
            ((planToGoal r o pruned.actions g).outcome w).1 = .ok y ∧ x.map Plan.cost = y.map Plan.cost := by
  have hlen := Facts.length_unknowns_le_one hone
  obtain ⟨ps, t, u, hplans, hprune, hu, hfollow⟩ := h.outcome_prune hlen o d hs
  refine ⟨rank ps, d.restrict (inUse (rank ps)), t, u, hplans, hprune, hu, rfl, List.filter_sublist,
    fun a => hfollow.mem_restrict, ?_⟩
  intro g hg hcut hcut' v w hv hw
  obtain ⟨x, _, hx, _, hxc⟩ := h.outcome_planToGoal hlen d.actionNames o g hv
  obtain ⟨y, _, hy, _, hyc⟩ := h.outcome_planToGoal hlen (d.restrict (inUse (rank ps))).actionNames o g hw
  refine ⟨x, y, by rw [hx], by rw [hy], ?_⟩
  have cost (z : Option (Plan Rat)) : z.map Plan.cost =
      (z.map Plan.course).map fun c => Cost.sum (c.2.map Action.cost) := by
    cases z <;> rfl
  rw [cost x, cost y, hxc, hyc]
  rcases plan?_of_subset hcut hcut' List.filter_sublist.subset fun p => hfollow.mem_restrict_of_plan? hg with
    ⟨hp, hq⟩ | ⟨p, q, hp, hq, hpc, hqc⟩
  · rw [hp, hq]
  · rw [hp, hq]
    exact congrArg some (hpc.cost_eq hqc)

namespace Door

/-! Where the key is at hand, fetching it and forcing the door are idle. -/

def keyed : Facts := Facts.uniform ["k"] .yes

set_option maxRecDepth 100000 in
theorem search_keyed : (find ⟨10, true⟩ keyed visit.actions opened).search.readOff 2 =
    (some (.ofFacts (Facts.uniform ["d", "k"] .yes), 1, [unlock]), true) := by
  rw [search_find]
  cbv

theorem plan?_visit : plan? ⟨10, true⟩ keyed visit.actions opened = some ⟨[unlock], opened, keyed⟩ :=
  plan?_of_readOff search_keyed (by decide)

theorem plan?_domain : plan? ⟨10, true⟩ keyed domain.actions opened = some ⟨[unlock], opened, keyed⟩ :=
  plan?_keyed rfl (by decide)

set_option maxRecDepth 100000 in
theorem cut_find_key (t : Truth) : (find ⟨10, true⟩ (Facts.uniform ["k"] t) domain.actions opened).cut = false := by
  rw [← Bool.not_eq_true, cut_find_iff, search_find, not_not]
  cases t <;> cbv

theorem courses_visit {ps : List (Plan Rat)} (h : Follow ⟨10, true⟩ keyed visit.actions (Goal.byName visit.goals) ps) :
    ps.map Plan.course = [(opened, [unlock])] := by
  have hgoals : Goal.byName visit.goals = [opened] := List.mergeSort_singleton opened
  rw [h, hgoals, List.filterMap_cons, plan?_visit]
  rfl

/-- Where the key is at hand, or said to be when asked for, pruning leaves the way by the key. -/
theorem outcome_prune_visit (h : r.Fixed kind start answer) (hone : start.unknowns.length ≤ 1)
    (hkeyed : start.answered answer = keyed) (hs : kind s.world) :
    ∃ u, (prune r ⟨10, true⟩ visit).outcome s = (.ok domain, u) := by
  obtain ⟨ps, _, u, -, hprune, -, hfollow⟩ := h.outcome_prune hone ⟨10, true⟩ visit hs
  have hrestrict : visit.restrict (inUse (rank ps)) = domain := by
    rw [hkeyed] at hfollow
    rw [inUse_rank, courses_visit hfollow]
    rfl
  exact ⟨u, hrestrict ▸ hprune⟩

end Door

open Door in
/-- The state does not say whether the key is at hand. It is, so unlocking the door is the plan before and after the
other ways through it have been dropped. -/
theorem planToGoal_prune_door :
    ∃ u x y,
      (prune ⟨return Facts.uniform ["k"] .unknown, fun _ => return .yes⟩ ⟨10, true⟩ visit).outcome ⟨(), #[]⟩ =
        (.ok domain, u) ∧
      ((planToGoal ⟨return Facts.uniform ["k"] .unknown, fun _ => return .yes⟩ ⟨10, true⟩ visit.actions
        opened).outcome ⟨(), #[]⟩).1 = .ok (some x) ∧
      ((planToGoal ⟨return Facts.uniform ["k"] .unknown, fun _ => return .yes⟩ ⟨10, true⟩ domain.actions
        opened).outcome ⟨(), #[]⟩).1 = .ok (some y) ∧
      x.course = (opened, [unlock]) ∧ y.course = (opened, [unlock]) ∧ x.cost = 1 ∧ y.cost = 1 := by
  have hfixed := Resolver.fixed_return (Facts.uniform ["k"] .unknown) .yes
  have hone (m n : Name) (hm : (Facts.uniform ["k"] .unknown).get? m = some .unknown)
      (hn : (Facts.uniform ["k"] .unknown).get? n = some .unknown) : m = n := (open_iff.1 hm).trans (open_iff.1 hn).symm
  have hlen := Facts.length_unknowns_le_one hone
  have hkeyed : (Facts.uniform ["k"] .unknown).answered (fun _ => .yes) = keyed :=
    Facts.answered_of_open (Facts.unknowns_eq_singleton fun _ => open_iff) _
  obtain ⟨u, hprune⟩ := outcome_prune_visit hfixed hlen hkeyed (s := ⟨(), #[]⟩) trivial
  obtain ⟨_, pruned, _, _, -, hpruned, -, -, -, -, hgoal⟩ :=
    planToGoal_prune hfixed hone ⟨10, true⟩ visit (s := ⟨(), #[]⟩) trivial
  cases hprune.symm.trans hpruned
  rw [hkeyed] at hgoal
  obtain ⟨x, y, hx, hy, hxy⟩ := hgoal opened (List.mem_singleton_self _) (cut_of_readOff search_keyed)
    (cut_find_key .yes) ⟨(), #[]⟩ ⟨(), #[]⟩ trivial trivial
  obtain ⟨p, rfl, hp⟩ :=
    hfixed.course_of_outcome_planToGoal hlen visit.actionNames (hkeyed ▸ plan?_visit) trivial hx
  obtain ⟨q, rfl, hq⟩ :=
    hfixed.course_of_outcome_planToGoal hlen domain.actionNames (hkeyed ▸ plan?_domain) trivial hy
  have hcost : p.cost = 1 := by
    rw [Plan.cost, show p.actions = [unlock] from congrArg Prod.snd hp]
    norm_num [unlock]
  exact ⟨u, p, q, hprune, hx, hy, hp, hq, hcost, (Option.some.inj hxy).symm.trans hcost⟩

end Pruning

end GoalPlanner
