import GoalPlanner.Proofs.Plan.Prune
import GoalPlanner.Proofs.Search.Admissible
import Mathlib

/-!
# Plans under an estimate that is a lower bound

The estimate of a search counts the requirements of the goal that are not met yet. Where this number never exceeds what
reaching the goal still costs (`Optimistic`), every plan is a cheapest one, even if the limit cuts the search short
while cheaper entries might be waiting. So it is where no action meets more further requirements than it costs
(`Gradual`, `cheapest_of_optimistic`).
-/

namespace GoalPlanner

/-! ## Unmet requirements -/

section

variable {κ : Type} [Cost κ] {g : Goal κ} {s : Facts}

/-- The number of requirements of a goal that a state does not meet. -/
def Goal.unmetIn (g : Goal κ) (s : Facts) : Nat := g.unmet (.ofFacts s)

theorem Goal.unmetIn_eq_zero (h : g.reached s = true) : g.unmetIn s = 0 := by
  refine List.countP_eq_zero.2 fun e he => ?_
  rw [Snapshot.get?_ofFacts, Facts.meets_iff.1 h e.1 e.2 (Table.get?_eq_some_iff.2 he)]
  simp

theorem Goal.unmetIn_le (g : Goal κ) (s : Facts) : g.unmetIn s ≤ g.pre.size := List.countP_le_length

end

variable {start : Facts} {actions : List (Action Rat)} {g : Goal Rat}

/-- A state that some of the actions lead to from the start. -/
def Attainable (start : Facts) (actions : List (Action Rat)) (s : Facts) : Prop :=
  ∃ as : List (Action Rat), (∀ a ∈ as, a ∈ actions) ∧ simulate start as = some s

/-- Wherever the actions lead, as many requirements of the goal are unmet as reaching the goal from there costs, or
fewer. -/
def Optimistic (start : Facts) (actions : List (Action Rat)) (g : Goal Rat) : Prop :=
  ∀ s, Attainable start actions s → ∀ as : List (Action Rat), (∀ a ∈ as, a ∈ actions) → achieves s as g = true →
    (g.unmetIn s : Rat) ≤ Cost.sum (as.map Action.cost)

/-- Wherever the actions lead, an action lowers the number of unmet requirements by no more than it costs. -/
def Gradual (start : Facts) (actions : List (Action Rat)) (g : Goal Rat) : Prop :=
  ∀ s, Attainable start actions s → ∀ a ∈ actions, a.available s = true →
    (g.unmetIn s : Rat) ≤ a.cost + g.unmetIn (a.apply s)

theorem Attainable.apply {s : Facts} (h : Attainable start actions s) {a : Action Rat} (ha : a ∈ actions)
    (hav : a.available s = true) : Attainable start actions (a.apply s) := by
  obtain ⟨as, has, hs⟩ := h
  refine ⟨as ++ [a], List.forall_mem_append.2 ⟨has, List.forall_mem_singleton.2 ha⟩, ?_⟩
  rw [simulate_append, hs, Option.bind_some, simulate, if_pos hav]
  rfl

/-- What each action keeps to, a sequence of them does. -/
theorem Gradual.optimistic (h : Gradual start actions g) : Optimistic start actions g := by
  intro s hs as has hach
  induction as generalizing s with
  | nil =>
    rw [Goal.unmetIn_eq_zero hach]
    exact le_refl _
  | cons a as ih =>
    obtain ⟨hav, hach⟩ := achieves_cons.1 hach
    have ha : a ∈ actions := has a List.mem_cons_self
    have hrest := ih _ (hs.apply ha hav) (fun b hb => has b (List.mem_cons_of_mem a hb)) hach
    have hstep := h s hs a ha hav
    rw [List.map_cons, Cost.sum_cons]
    linarith

/-! ## The search problem -/

/-- Where a walk through the snapshots leads, carrying out the actions does. -/
theorem exists_simulate_of_after {s : Facts} {as : List (Action Rat)} {n : Snapshot}
    (h : (g.problem (.ofFacts start) actions).after (.ofFacts s) as = some n) :
    ∃ t, simulate s as = some t ∧ .ofFacts t = n := by
  rw [after_ofFacts] at h
  exact Option.map_eq_some_iff.1 h

theorem Optimistic.admissible (h : Optimistic start actions g) : (g.problem (.ofFacts start) actions).Admissible := by
  intro before after n m hbefore hafter hn hm hd
  obtain ⟨s, hs, rfl⟩ := exists_simulate_of_after hn
  obtain ⟨t, ht, rfl⟩ := exists_simulate_of_after hm
  refine h s ⟨before, fun a ha => Action.mem_byName.1 (hbefore a ha), hs⟩ after
    (fun a ha => Action.mem_byName.1 (hafter a ha)) (achieves_iff.2 ⟨t, ht, ?_⟩)
  exact (Snapshot.meets_ofFacts t g.pre).symm.trans hd

/-- With an optimistic estimate, no way to the goal costs less than the best node, whatever the limit. -/
theorem Optimistic.best_le (h : Optimistic start actions g) {o : Options} {n : Snapshot} {b : Rat}
    (hb : (find o start actions g).search.best = some (n, b)) {as : List (Action Rat)} (has : ∀ a ∈ as, a ∈ actions)
    (hach : achieves start as g = true) : b ≤ Cost.sum (as.map Action.cost) := by
  obtain ⟨t, ht, hg⟩ := achieves_iff.1 hach
  rw [search_find] at hb
  refine Search.bestLeast_run h.admissible (fun _ => Nat.cast_nonneg _) (g.cost_nonneg _ _) o.limit n b hb as
    (fun a ha => Action.mem_byName.2 (has a ha)) (.ofFacts t) ?_ ((Snapshot.meets_ofFacts t g.pre).trans hg)
  exact (after_ofFacts ..).trans (congrArg (Option.map Snapshot.ofFacts) ht)

/-- Where the unmet requirements are never more than what reaching the goal still costs, every plan is a cheapest way to
the goal, whatever the limit of the search and whether the way found is trimmed or not. So it is in particular where no
action lowers their number by more than it costs. -/
theorem cheapest_of_optimistic (start : Facts) (actions : List (Action Rat)) (g : Goal Rat) :
    (Gradual start actions g → Optimistic start actions g) ∧
    (Optimistic start actions g → ∀ (o : Options) (p : Plan Rat), plan? o start actions g = some p →
      (∀ a ∈ p.actions, a ∈ actions) ∧ achieves start p.actions g = true ∧
        ∀ as : List (Action Rat), (∀ a ∈ as, a ∈ actions) → achieves start as g = true →
          p.cost ≤ Cost.sum (as.map Action.cost)) := by
  refine ⟨Gradual.optimistic, fun h o p hp => ?_⟩
  obtain ⟨hach, n, b, hb, hle⟩ := achieves_of_plan? hp
  exact ⟨mem_actions_of_plan? hp, hach, fun as has has' => hle.trans (h.best_le hb has has')⟩

open Door in
set_option maxRecDepth 100000 in
/-- After three steps the search has come through the door with the key; that it can be forced is still waiting. -/
theorem Door.search_three : (find ⟨3, true⟩ ∅ [unlock, force, fetch] opened).search.readOff 3 =
    (some (.ofFacts (Facts.uniform ["d", "k"] .yes), 2, [fetch, unlock]), false) := by
  rw [search_find]
  cbv

open Door in
/-- Every action costs at least one, and only the door is to be opened. So although the search is cut short, no way
through the door costs less than fetching the key and unlocking it. -/
theorem cheapest_of_optimistic_door :
    ∃ p, plan? ⟨3, true⟩ ∅ [unlock, force, fetch] opened = some p ∧
      (find ⟨3, true⟩ ∅ [unlock, force, fetch] opened).cut = true ∧ p.actions = [fetch, unlock] ∧
      ∀ as : List (Action Rat), (∀ a ∈ as, a ∈ [unlock, force, fetch]) → achieves ∅ as opened = true →
        p.cost ≤ Cost.sum (as.map Action.cost) := by
  have hp : plan? ⟨3, true⟩ ∅ [unlock, force, fetch] opened = some ⟨[fetch, unlock], opened, ∅⟩ :=
    plan?_of_readOff search_three (by decide)
  have hcut : (find ⟨3, true⟩ ∅ [unlock, force, fetch] opened).cut = true := by
    rw [cut_find_iff]
    intro hq
    have hwaiting := congrArg Prod.snd search_three
    rw [Search.readOff, hq] at hwaiting
    cases hwaiting
  have hgradual : Gradual ∅ [unlock, force, fetch] opened := by
    intro s _ a ha _
    have hone : (opened.unmetIn s : Rat) ≤ 1 := by exact_mod_cast opened.unmetIn_le s
    have hcost : 1 ≤ a.cost := by
      revert a
      norm_num [unlock, force, fetch]
    have hrest : (0 : Rat) ≤ opened.unmetIn (a.apply s) := Nat.cast_nonneg _
    linarith
  obtain ⟨hoptimistic, hcheapest⟩ := cheapest_of_optimistic ∅ [unlock, force, fetch] opened
  exact ⟨_, hp, hcut, rfl, (hcheapest (hoptimistic hgradual) _ _ hp).2.2⟩

end GoalPlanner
