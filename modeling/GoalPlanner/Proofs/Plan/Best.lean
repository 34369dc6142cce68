import GoalPlanner.Proofs.Plan.Prune
import Mathlib

/-!
# The best plan

The best plan is the first by rank, and what plans rank by depends on their courses only. Over a resolver that does
not change, pruning keeps to which goals there are plans, so it keeps whether there is a best plan; and if the
cheapest sequences for one goal are all worth the same, it keeps what the best plan is for and what it gains
(`bestPlan_prune`).

Without this it does not (`bestPlan_prune_changes`). An action that a plan does not use can still have led the search
to it, past a plan that costs the same and is worth less; once the action is dropped, the search finds the other one.
-/

namespace GoalPlanner

/-! ## Plans that follow others -/

section

variable {κ β : Type} [Cost κ] {o : Options} {start : Facts} {actions fewer : List (Action κ)} {gs : List (Goal κ)}
  {ps qs : List (Plan κ)}

/-- What only the courses of plans decide is the same over two lists of actions if it is for each goal. -/
theorem Follow.map_eq (h : Follow o start actions gs ps) (k : Follow o start fewer gs qs)
    (f : Goal κ × List (Action κ) → β)
    (hf : ∀ g ∈ gs, (plan? o start actions g).map (f ∘ Plan.course) = (plan? o start fewer g).map (f ∘ Plan.course)) :
    ps.map (f ∘ Plan.course) = qs.map (f ∘ Plan.course) := by
  rw [Follow] at h k
  rw [← List.map_map, ← List.map_map, h, k, List.map_filterMap, List.map_filterMap]
  refine List.filterMap_congr fun g hg => ?_
  rw [Option.map_map, Option.map_map]
  exact hf g hg

/-- The plans are for goals of the domain, so the name of a goal says which. -/
theorem Follow.goal_mem {d : Domain κ} (h : Follow o start actions (Goal.byName d.goals) ps) {p : Plan κ}
    (hp : p ∈ rank ps) : p.goal ∈ d.goals ∧ ∀ g ∈ d.goals, p.goal.name = g.name → p.goal = g := by
  obtain ⟨g, hg, q, hq, hqc⟩ := (h.exists_iff p.course).1 ⟨p, mem_rank.1 hp, rfl⟩
  have hgoal : q.goal = p.goal := congrArg Prod.fst hqc
  rw [← hgoal, goal_of_plan? hq]
  have hg := Goal.mem_byName.1 hg
  exact ⟨hg, fun f hf => List.inj_on_of_nodup_map d.goalNames hg hf⟩

end

/-- Plans for one goal that are cheapest and worth the same rank by the same. -/
theorem Cheapest.standing_eq {start : Facts} {actions : List (Action Rat)} {g : Goal Rat} {p q : Plan Rat}
    (hp : Cheapest start actions g p.actions) (hq : Cheapest start actions g q.actions) (hgoal : p.goal = q.goal)
    (hvalue : Cost.sum (p.actions.map Action.value) = Cost.sum (q.actions.map Action.value)) :
    p.standing = q.standing := by
  refine Plan.standing_inj.2 ⟨?_, congrArg Goal.name hgoal⟩
  rw [Plan.netValue, Plan.netValue, Plan.actionsValue, Plan.actionsValue, Plan.cost, Plan.cost, hgoal, hvalue,
    hp.cost_eq hq]

/-- Plans to goals of one domain that rank by the same have a first one for the same goal, which gains the same. -/
theorem Follow.head?_rank {o : Options} {start : Facts} {actions fewer : List (Action Rat)} {d : Domain Rat}
    {ps qs : List (Plan Rat)} (h : Follow o start actions (Goal.byName d.goals) ps)
    (k : Follow o start fewer (Goal.byName d.goals) qs) (hs : ps.map Plan.standing = qs.map Plan.standing) :
    (rank ps).head?.map (fun p => (p.goal, p.netValue)) = (rank qs).head?.map fun p => (p.goal, p.netValue) := by
  have hhead : (rank ps).head?.map Plan.standing = (rank qs).head?.map Plan.standing := by
    rw [← List.head?_map, ← List.head?_map, map_standing_rank hs]
  cases hx : (rank ps).head? with
  | none =>
    rw [hx, Option.map_none, eq_comm, Option.map_eq_none_iff] at hhead
    rw [hhead]
  | some x =>
    rw [hx, Option.map_some, eq_comm, Option.map_eq_some_iff] at hhead
    obtain ⟨y, hy, hyx⟩ := hhead
    obtain ⟨hnet, hname⟩ := Plan.standing_inj.1 hyx
    have hgoal : y.goal = x.goal :=
      (k.goal_mem (List.mem_of_head? hy)).2 x.goal (h.goal_mem (List.mem_of_head? hx)).1 hname
    rw [hy]
    exact congrArg some (Prod.ext hgoal.symm hnet.symm)

/-! ## Pruning -/

section

variable {σ : Type} {r : Resolver σ} {kind : σ → Prop} {start : Facts} {answer : Name → Truth} {s : Session σ}

/-- The best plan is the first by rank of plans that follow those from the state with the answer filled in. -/
theorem Resolver.Fixed.outcome_bestPlan (h : r.Fixed kind start answer) (hone : start.unknowns.length ≤ 1)
    (o : Options) (d : Domain Rat) (hs : kind s.world) :
    ∃ ps, ((bestPlan r o d).outcome s).1 = .ok (rank ps).head? ∧
      Follow o (start.answered answer) d.actions (Goal.byName d.goals) ps := by
  obtain ⟨ps, t, hps, -, hfollow⟩ := h.outcome_plansToGoals hone o d hs
  refine ⟨ps, ?_, hfollow⟩
  rw [bestPlan, Effect.outcome_bind_of_ok hps]
  rfl

/-- Over a resolver that does not change and whose state leaves nothing open, if no search is cut short, there is a
best plan after pruning if and only if there is one before. If moreover the cheapest sequences of actions for a goal
are all worth the same, then it is for the same goal and gains the same. -/
theorem bestPlan_prune (h : r.Fixed kind start answer) (hknown : ∀ n, start.get? n ≠ some .unknown) (o : Options)
    (d : Domain Rat) (hs : kind s.world) :
    ∃ pruned u, (prune r o d).outcome s = (.ok pruned, u) ∧ kind u.world ∧
      ((∀ g ∈ d.goals, (find o start d.actions g).cut = false ∧ (find o start pruned.actions g).cut = false) →
        ∀ v w : Session σ, kind v.world → kind w.world →
          ∃ x y, ((bestPlan r o d).outcome v).1 = .ok x ∧ ((bestPlan r o pruned).outcome w).1 = .ok y ∧
            (x = none ↔ y = none) ∧
            ((∀ g ∈ d.goals, ∀ as bs, Cheapest start d.actions g as → Cheapest start d.actions g bs →
                Cost.sum (as.map Action.value) = Cost.sum (bs.map Action.value)) →
              x.map (fun p => (p.goal, p.netValue)) = y.map fun p => (p.goal, p.netValue))) := by
  have hunknowns : start.unknowns = [] :=
    List.eq_nil_iff_forall_not_mem.2 fun n hn => hknown n (Facts.mem_unknowns.1 hn)
  have hlen : start.unknowns.length ≤ 1 := by simp [hunknowns]
  obtain ⟨used, _, u, -, hprune, hu, hused⟩ := h.outcome_prune hlen o d hs
  refine ⟨_, u, hprune, hu, fun hcut v w hv hw => ?_⟩
  obtain ⟨ps, hps, hpsf⟩ := h.outcome_bestPlan hlen o d hv
  obtain ⟨qs, hqs, hqsf⟩ := h.outcome_bestPlan hlen o (d.restrict (inUse (rank used))) hw
  rw [Facts.answered_of_known hunknowns] at hused hpsf hqsf
  have hpair {g : Goal Rat} (hg : g ∈ Goal.byName d.goals) := plan?_of_subset (hcut g (Goal.mem_byName.1 hg)).1
    (hcut g (Goal.mem_byName.1 hg)).2 List.filter_sublist.subset
    fun p => hused.mem_restrict_of_plan? (Goal.mem_byName.1 hg)
  refine ⟨_, _, hps, hqs, ?_, fun hvalue => ?_⟩
  · have hgoals : ps.map Plan.goal = qs.map Plan.goal := hpsf.map_eq hqsf Prod.fst fun g hg => by
      rcases hpair hg with ⟨hp, hq⟩ | ⟨p, q, hp, hq, -, -⟩
      · rw [hp, hq]
      · rw [hp, hq]
        exact congrArg some ((goal_of_plan? hp).trans (goal_of_plan? hq).symm)
    rw [head?_rank_eq_none_iff, head?_rank_eq_none_iff, ← List.map_eq_nil_iff (f := Plan.goal), hgoals,
      List.map_eq_nil_iff]
  · have hstanding : ps.map Plan.standing = qs.map Plan.standing :=
      hpsf.map_eq hqsf (fun c => Plan.standing ⟨c.2, c.1, start⟩) fun g hg => by
        rcases hpair hg with ⟨hp, hq⟩ | ⟨p, q, hp, hq, hpc, hqc⟩
        · rw [hp, hq]
        · rw [hp, hq]
          exact congrArg some (hpc.standing_eq hqc ((goal_of_plan? hp).trans (goal_of_plan? hq).symm)
            (hvalue g (Goal.mem_byName.1 hg) _ _ hpc hqc))
    exact hpsf.head?_rank hqsf hstanding

open Door in
/-- With the key at hand, the best plan is to unlock the door, which gains what it costs; so it is after the other ways
through the door have been dropped. -/
theorem bestPlan_prune_door :
    ∃ u x y,
      (prune ⟨return keyed, fun _ => return .yes⟩ ⟨10, true⟩ visit).outcome ⟨(), #[]⟩ = (.ok domain, u) ∧
      ((bestPlan ⟨return keyed, fun _ => return .yes⟩ ⟨10, true⟩ visit).outcome ⟨(), #[]⟩).1 = .ok (some x) ∧
      ((bestPlan ⟨return keyed, fun _ => return .yes⟩ ⟨10, true⟩ domain).outcome ⟨(), #[]⟩).1 = .ok (some y) ∧
      x.course = (opened, [unlock]) ∧ x.netValue = 0 ∧ y.goal = opened ∧ y.netValue = 0 := by
  have hfixed := Resolver.fixed_return keyed .yes
  have hunknowns : keyed.unknowns = [] := by cbv
  have hlen : keyed.unknowns.length ≤ 1 := by simp [hunknowns]
  have hanswered := Facts.answered_of_known hunknowns fun _ => .yes
  have hknown (n : Name) : keyed.get? n ≠ some .unknown := fun hn => by
    have hn := Facts.mem_unknowns.2 hn
    rw [hunknowns] at hn
    cases hn
  obtain ⟨u, hprune⟩ := outcome_prune_visit hfixed hlen hanswered (s := ⟨(), #[]⟩) trivial
  obtain ⟨pruned, _, hpruned, -, hbest⟩ := bestPlan_prune hfixed hknown ⟨10, true⟩ visit (s := ⟨(), #[]⟩) trivial
  cases hprune.symm.trans hpruned
  -- the actions are worth nothing, so all cheapest sequences are worth the same
  have hworth (as : List (Action Rat)) (has : ∀ a ∈ as, a ∈ visit.actions) : Cost.sum (as.map Action.value) = 0 := by
    induction as with
    | nil => rfl
    | cons a as ih =>
      have hvalue : ∀ a ∈ visit.actions, a.value = 0 := by decide
      rw [List.forall_mem_cons] at has
      rw [List.map_cons, Cost.sum_cons, ih has.2, hvalue a has.1, add_zero]
  obtain ⟨x, y, hx, hy, -, hsame⟩ := hbest (List.forall_mem_singleton.2 ⟨cut_of_readOff search_keyed,
    cut_find_key .yes⟩) ⟨(), #[]⟩ ⟨(), #[]⟩ trivial trivial
  obtain ⟨p, rfl, hcourse⟩ : ∃ p, x = some p ∧ p.course = (opened, [unlock]) := by
    obtain ⟨ps, hps, hfollow⟩ := hfixed.outcome_bestPlan hlen ⟨10, true⟩ visit (s := ⟨(), #[]⟩) trivial
    rw [hanswered] at hfollow
    obtain ⟨p, rfl, hcourse⟩ := List.map_eq_singleton_iff.1 (courses_visit hfollow)
    rw [hx, rank_of_length_le_one (by simp)] at hps
    exact ⟨p, Except.ok.inj hps, hcourse⟩
  obtain ⟨hgoal, hactions⟩ := Prod.ext_iff.1 hcourse
  have hnet : p.netValue = 0 := by
    obtain ⟨as, g, start⟩ := p
    simp only [Plan.course] at hgoal hactions
    subst hgoal hactions
    norm_num [Plan.netValue, Plan.actionsValue, Plan.cost, opened, unlock]
  have hsame := hsame fun g _ as bs has hbs => by rw [hworth as has.mem, hworth bs hbs.mem]
  rw [Option.map_some, eq_comm, Option.map_eq_some_iff] at hsame
  obtain ⟨q, rfl, hq⟩ := hsame
  obtain ⟨hqgoal, hqnet⟩ := Prod.ext_iff.1 hq
  exact ⟨u, p, q, hprune, hx, hy, hcourse, hnet, hqgoal.trans hgoal, hqnet.trans hnet⟩

end

/-! ## Where pruning changes the best plan -/

namespace Shop

/-! Goods (`x`, and a notice of them, `y`) can be built (`p`) and then delivered, which is worth something in itself.
At the same cost they can be taken from a shop, which also gets a receipt (`q`). The notice alone costs nothing. -/

def start : Facts := Facts.uniform ["p", "q", "x", "y"] .no

def build : Action Rat := ⟨"b", ∅, Facts.uniform ["p"] .yes, 1, 0, by decide, by norm_num⟩

def deliver : Action Rat :=
  ⟨"d", Facts.uniform ["p"] .yes, Facts.uniform ["x", "y"] .yes, 3 / 2, 10, by decide, by norm_num⟩

def notify : Action Rat := ⟨"n", ∅, Facts.uniform ["y"] .yes, 0, 0, by decide, by norm_num⟩

def take : Action Rat := ⟨"t", ∅, Facts.uniform ["q", "x", "y"] .yes, 5 / 2, 0, by decide, by norm_num⟩

def goods : Goal Rat := ⟨"goods", Facts.uniform ["x", "y"] .yes, 0, "", by decide⟩

def receipt : Goal Rat := ⟨"receipt", Facts.uniform ["q"] .yes, 3, "", by decide⟩

def domain : Domain Rat := ⟨[notify, build, deliver, take], [goods, receipt], by decide, by decide⟩

def resolver : Resolver Unit := ⟨return start, fun _ => return .no⟩

/-- The search for a way to a goal. -/
def search (actions : List (Action Rat)) (g : Goal Rat) : Search Snapshot (Action Rat) Rat :=
  (find ⟨100, true⟩ start actions g).search

/-- The snapshot with this said of the conditions. -/
def view (p q x y : Truth) : Snapshot := .ofFacts (.ofList [("p", p), ("q", q), ("x", x), ("y", y)])

set_option maxRecDepth 100000 in
/-- From the notice the search goes on to build and deliver before it comes to take. -/
theorem search_goods : (search [notify, build, deliver, take] goods).readOff 4 =
    (some (view .yes .no .yes .yes, 5 / 2, [notify, build, deliver]), true) := by
  rw [search, search_find]
  cbv

set_option maxRecDepth 100000 in
theorem search_receipt : (search [notify, build, deliver, take] receipt).readOff 4 =
    (some (view .no .yes .yes .yes, 5 / 2, [take]), true) := by
  rw [search, search_find]
  cbv

set_option maxRecDepth 100000 in
/-- Without the notice it comes to take first. -/
theorem search_goods_pruned : (search [build, deliver, take] goods).readOff 4 =
    (some (view .no .yes .yes .yes, 5 / 2, [take]), true) := by
  rw [search, search_find]
  cbv

set_option maxRecDepth 100000 in
theorem search_receipt_pruned : (search [build, deliver, take] receipt).readOff 4 =
    (some (view .no .yes .yes .yes, 5 / 2, [take]), true) := by
  rw [search, search_find]
  cbv

theorem byName_goals : Goal.byName domain.goals = [goods, receipt] := by
  cbv

variable {ps : List (Plan Rat)}

theorem map_standing_of_courses {cs : List (Goal Rat × List (Action Rat))} (h : ps.map Plan.course = cs) :
    ps.map Plan.standing = cs.map fun c => Plan.standing ⟨c.2, c.1, start⟩ := by
  rw [← h, List.map_map]
  rfl

theorem courses (h : Follow ⟨100, true⟩ start domain.actions (Goal.byName domain.goals) ps) :
    ps.map Plan.course = [(goods, [build, deliver]), (receipt, [take])] := by
  rw [h, byName_goals]
  have hg : plan? ⟨100, true⟩ start domain.actions goods = some ⟨[build, deliver], goods, start⟩ :=
    plan?_of_readOff search_goods (by decide)
  have hr : plan? ⟨100, true⟩ start domain.actions receipt = some ⟨[take], receipt, start⟩ :=
    plan?_of_readOff search_receipt (by decide)
  simp [hg, hr, Plan.course]

theorem restrict_actions (h : Follow ⟨100, true⟩ start domain.actions (Goal.byName domain.goals) ps) :
    (domain.restrict (inUse (rank ps))).actions = [build, deliver, take] := by
  rw [Domain.restrict, inUse_rank, courses h]
  cbv

theorem courses_pruned (h : Follow ⟨100, true⟩ start [build, deliver, take] (Goal.byName domain.goals) ps) :
    ps.map Plan.course = [(goods, [take]), (receipt, [take])] := by
  rw [h, byName_goals]
  have hg : plan? ⟨100, true⟩ start [build, deliver, take] goods = some ⟨[take], goods, start⟩ :=
    plan?_of_readOff search_goods_pruned (by decide)
  have hr : plan? ⟨100, true⟩ start [build, deliver, take] receipt = some ⟨[take], receipt, start⟩ :=
    plan?_of_readOff search_receipt_pruned (by decide)
  simp [hg, hr, Plan.course]

theorem standings (h : Follow ⟨100, true⟩ start domain.actions (Goal.byName domain.goals) ps) :
    ps.map Plan.standing = [toLex (-(15 / 2), "goods"), toLex (-(1 / 2), "receipt")] := by
  rw [map_standing_of_courses (courses h)]
  norm_num [Plan.standing, Plan.netValue, Plan.actionsValue, Plan.cost, goods, receipt, build, deliver, take]

theorem standings_pruned (h : Follow ⟨100, true⟩ start [build, deliver, take] (Goal.byName domain.goals) ps) :
    ps.map Plan.standing = [toLex (5 / 2, "goods"), toLex (-(1 / 2), "receipt")] := by
  rw [map_standing_of_courses (courses_pruned h)]
  norm_num [Plan.standing, Plan.netValue, Plan.actionsValue, Plan.cost, goods, receipt, take]

end Shop

open Shop in
/-- No search is cut short, and yet the best plan after pruning is for another goal and gains less. -/
theorem bestPlan_prune_changes :
    ∃ pruned u x y, (prune resolver ⟨100, true⟩ domain).outcome ⟨(), #[]⟩ = (.ok pruned, u) ∧
      (∀ g ∈ domain.goals, (find ⟨100, true⟩ start domain.actions g).cut = false ∧
        (find ⟨100, true⟩ start pruned.actions g).cut = false) ∧
      ((bestPlan resolver ⟨100, true⟩ domain).outcome ⟨(), #[]⟩).1 = .ok (some x) ∧
      ((bestPlan resolver ⟨100, true⟩ pruned).outcome ⟨(), #[]⟩).1 = .ok (some y) ∧
      x.goal = goods ∧ x.netValue = 15 / 2 ∧ y.goal = receipt ∧ y.netValue = 1 / 2 := by
  have hfixed : resolver.Fixed (fun _ => True) start fun _ => .no := Resolver.fixed_return start .no
  have hknown : start.unknowns = [] := by cbv
  have hlen : start.unknowns.length ≤ 1 := by simp [hknown]
  obtain ⟨used, _, u, -, hprune, -, hused⟩ :=
    hfixed.outcome_prune hlen ⟨100, true⟩ domain (s := ⟨(), #[]⟩) trivial
  obtain ⟨ps, hps, hpsf⟩ := hfixed.outcome_bestPlan hlen ⟨100, true⟩ domain (s := ⟨(), #[]⟩) trivial
  obtain ⟨qs, hqs, hqsf⟩ := hfixed.outcome_bestPlan hlen ⟨100, true⟩ (domain.restrict (inUse (rank used)))
    (s := ⟨(), #[]⟩) trivial
  rw [Facts.answered_of_known hknown] at hused hpsf hqsf
  rw [restrict_actions hused] at hqsf
  have hx : (rank ps).head?.map Plan.standing = some (toLex (-(15 / 2), "goods")) := by
    refine map_standing_head?_rank ?_ ?_
    · simp [standings hpsf]
    · norm_num [standings hpsf, Prod.Lex.toLex_le_toLex]
  have hy : (rank qs).head?.map Plan.standing = some (toLex (-(1 / 2), "receipt")) := by
    refine map_standing_head?_rank ?_ ?_
    · simp [standings_pruned hqsf]
    · norm_num [standings_pruned hqsf, Prod.Lex.toLex_le_toLex]
  obtain ⟨x, hx, hxs⟩ := Option.map_eq_some_iff.1 hx
  obtain ⟨y, hy, hys⟩ := Option.map_eq_some_iff.1 hy
  refine ⟨_, u, x, y, hprune, ?_, hps.trans (congrArg _ hx), hqs.trans (congrArg _ hy), ?_⟩
  · rw [restrict_actions hused]
    exact List.forall_mem_cons.2 ⟨⟨cut_of_readOff search_goods, cut_of_readOff search_goods_pruned⟩,
      List.forall_mem_singleton.2 ⟨cut_of_readOff search_receipt, cut_of_readOff search_receipt_pruned⟩⟩
  · have hxg := Prod.ext_iff.1 (toLex.injective hxs)
    have hyg := Prod.ext_iff.1 (toLex.injective hys)
    exact ⟨(hpsf.goal_mem (List.mem_of_head? hx)).2 goods (by simp [domain]) hxg.2, neg_injective hxg.1,
      (hqsf.goal_mem (d := domain) (List.mem_of_head? hy)).2 receipt (by simp [domain]) hyg.2, neg_injective hyg.1⟩

end GoalPlanner
