import GoalPlanner.Proofs.Plan.Limit
import GoalPlanner.Proofs.Search.Fresh
import Mathlib

/-!
# The turns of a search for a plan

What holds of the search for a plan after any number of turns, whether it ends there or goes on. The links lead from
every state that has been reached back to the start, through different states and by actions that can be carried out,
at no more than the cost of the state; so following them back always ends (`links_lead_back`). No turn takes up a
closed state; a state is expanded again only at a lower cost, and the best states are recorded at costs that fall
(`turns_lower_costs`).
-/

namespace GoalPlanner

/-! ## Links -/

section

variable {start : Snapshot} {actions : List (Action Rat)} {g : Goal Rat} {s : Search Snapshot (Action Rat) Rat}

/-- A link is an action that can be carried out at its source and leads to its target; both have costs. -/
theorem Goal.step_of_link (h : Search.Grounded (g.problem start actions) s) {n m : Snapshot} {a : Action Rat}
    (hl : s.links[n]? = some (m, a)) :
    a ∈ actions ∧ m.meets a.pre = true ∧ m.merge a.eff = n ∧ m ∈ s.costs ∧ n ∈ s.costs := by
  obtain ⟨ha, hnext, c, d, hm, hn, -⟩ := h.link hl
  have hstep : m.meets a.pre = true ∧ m.merge a.eff = n := by
    simpa [Goal.problem, Action.next?] using hnext
  exact ⟨Action.mem_byName.1 ha, hstep.1, hstep.2, Std.HashMap.mem_iff_isSome_getElem?.2 (by rw [hm]; rfl),
    Std.HashMap.mem_iff_isSome_getElem?.2 (by rw [hn]; rfl)⟩

end

/-- After any number of turns, the links of a search form a tree with the start as its root. The start has no link. Each
link is one of the actions, which can be carried out in the state before it and leads to the state after it, and both
states have been reached. From every state that has been reached the links lead back to the start, through states that
are all different; the actions on the way lead from the start to this state and together cost no more than it does.
Following the links back ends from every state, and reading them back with at least as much fuel as there are links
comes to the same. -/
theorem links_lead_back (start : Facts) (actions : List (Action Rat)) (g : Goal Rat) (turns : Nat) :
    let s := Search.run (g.problem (.ofFacts start) actions) turns
    s.links[Snapshot.ofFacts start]? = none ∧
    (∀ n m a, s.links[n]? = some (m, a) →
      a ∈ actions ∧ m.meets a.pre = true ∧ m.merge a.eff = n ∧ m ∈ s.costs ∧ n ∈ s.costs) ∧
    (∀ n c, s.costs[n]? = some c → ∃ ns as, Search.Trail s.links (.ofFacts start) n ns as ∧ ns.Nodup ∧
      Search.Rebuilds s.links n [] as ∧ (simulate start as).map .ofFacts = some n ∧
      Cost.sum (as.map Action.cost) ≤ c) ∧
    ∀ n, ∃ way, Search.Rebuilds s.links n [] way ∧
      ∀ fuel, s.links.size ≤ fuel → Search.wayTo s.links fuel n [] = way := by
  intro s
  have hg : Search.Grounded (g.problem (.ofFacts start) actions) s := Search.grounded_run (g.cost_nonneg _ _) turns
  obtain ⟨_, hroot⟩ := hg.chain hg.start_cost
  refine ⟨hroot.unlinked, fun n m a hl => Goal.step_of_link hg hl, fun n c hn => ?_, fun n => ?_⟩
  · obtain ⟨as, hc⟩ := hg.chain hn
    obtain ⟨ns, ht, hnd, -⟩ := hc.exists_trail
    obtain ⟨hafter, htotal⟩ := hg.way hc hn
    refine ⟨ns, as, ht, hnd, by simpa using hc.rebuilds [], ?_, htotal⟩
    rw [← hafter]
    exact (after_ofFacts ..).symm
  · cases hl : s.links[n]? with
    | none =>
      refine ⟨[], .ends hl, fun fuel _ => ?_⟩
      cases fuel with
      | zero => rfl
      | succ fuel => rw [Search.wayTo, hl]
    | some l =>
      obtain ⟨-, -, -, d, -, hn, -⟩ := hg.link hl
      obtain ⟨as, hc⟩ := hg.chain hn
      refine ⟨as, by simpa using hc.rebuilds [], fun fuel hf => ?_⟩
      rw [Search.wayTo_of_chain hc (le_trans hc.length_le hf), List.append_nil]

namespace Tower

/-- The search problem of raising the flag. -/
def problem : Problem Snapshot (Action Rat) Rat :=
  hoisted.problem (.ofFacts outside) [climb, enter, pull, raise, ascend]

end Tower

open Tower in
set_option maxRecDepth 100000 in
/-- After four turns, the state in which the flag has been raised still has the cost of climbing. Its links lead back
through different states all the same, and at no more than this cost. -/
theorem links_lead_back_tower : (Search.run problem 4).costs[view .no .yes .yes]? = some (5 / 8) ∧
    ∃ ns as, Search.Trail (Search.run problem 4).links (.ofFacts outside) (view .no .yes .yes) ns as ∧ ns.Nodup ∧
      Cost.sum (as.map Action.cost) ≤ 5 / 8 := by
  have hcost : (Search.run problem 4).costs[view .no .yes .yes]? = some (5 / 8) := by
    cbv
  obtain ⟨ns, as, ht, hnd, -, -, hle⟩ :=
    (links_lead_back outside [climb, enter, pull, raise, ascend] hoisted 4).2.2.1 _ _ hcost
  exact ⟨hcost, ns, as, ht, hnd, hle⟩

/-! ## Costs -/

/-- In every turn of a search, an entry that is neither stale nor outbid is not one of a closed state. A state that is
expanded again is expanded at a lower cost. The best state changes only when one is recorded, and one that is recorded
later is recorded at a lower cost. -/
theorem turns_lower_costs (start : Facts) (actions : List (Action Rat)) (g : Goal Rat) :
    let p := g.problem (.ofFacts start) actions
    (∀ turns e, Search.Passes p turns e → e.node ∉ (Search.run p turns).closed) ∧
    (∀ i j n c d, i < j → Search.Expands p i n c → Search.Expands p j n d → d < c) ∧
    (∀ i j m n b c, i < j → Search.Records p i m b → Search.Records p j n c → c < b) ∧
    ∀ turns, (Search.run p (turns + 1)).best = (Search.run p turns).best ∨
      ∃ n c, Search.Records p turns n c ∧ (Search.run p (turns + 1)).best = some (n, c) := by
  intro p
  have hcost := g.cost_nonneg (.ofFacts start) actions
  refine ⟨fun turns e h => h.not_mem_closed hcost, fun i j n c d hij hi hj => ?_,
    fun i j m n b c hij hi hj => hi.cost_lt hcost hij hj, fun turns => Search.best_run_succ p turns⟩
  obtain ⟨e, he, -, -, rfl, rfl⟩ := hi
  obtain ⟨f, hf, -, -, hn, rfl⟩ := hj
  exact he.cost_lt hcost hij hf hn

namespace Tower

set_option maxRecDepth 100000 in
/-- The top is expanded after the climb. -/
theorem expands_top : Search.Expands problem 1 (view .no .yes .no) (1 / 2) := Search.passes_of_tests (by cbv)

set_option maxRecDepth 100000 in
/-- The top is expanded again once it has been reached from inside. -/
theorem expands_top_again : Search.Expands problem 5 (view .no .yes .no) (1 / 4) := Search.passes_of_tests (by cbv)

set_option maxRecDepth 100000 in
theorem records_raised : Search.Records problem 2 (view .no .yes .yes) (5 / 8) := Search.passes_of_tests (by cbv)

set_option maxRecDepth 100000 in
theorem records_pulled : Search.Records problem 4 (view .yes .yes .yes) (1 / 2) := Search.passes_of_tests (by cbv)

end Tower

open Tower in
/-- The top of the tower is expanded twice, the second time at a lower cost. The state with the flag raised from the top
is recorded first, and later, at a lower cost, the one with the flag pulled up. -/
theorem turns_lower_costs_tower :
    Search.Expands problem 1 (view .no .yes .no) (1 / 2) ∧ Search.Expands problem 5 (view .no .yes .no) (1 / 4) ∧
      (1 / 4 : Rat) < 1 / 2 ∧ Search.Records problem 2 (view .no .yes .yes) (5 / 8) ∧
      Search.Records problem 4 (view .yes .yes .yes) (1 / 2) ∧ (1 / 2 : Rat) < 5 / 8 := by
  obtain ⟨-, hexpands, hrecords, -⟩ := turns_lower_costs outside [climb, enter, pull, raise, ascend] hoisted
  exact ⟨expands_top, expands_top_again, hexpands 1 5 _ _ _ (by decide) expands_top expands_top_again, records_raised,
    records_pulled, hrecords 2 4 _ _ _ _ (by decide) records_raised records_pulled⟩

end GoalPlanner
