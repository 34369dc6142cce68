import GoalPlanner.Proofs.Plan.Find
import GoalPlanner.Proofs.Search.Exhaustion
import Mathlib

/-!
# What the limit decides

A limit that is high enough does not matter: actions leave the set of snapshots with the conditions of the start and
of the effects only, and these are finitely many (`Snapshot.finite_of_names`), so every search ends with nothing
waiting, and from some limit on the plan is always the same (`find_exhausts`).

With a lower limit, a plan that is found is still found with a higher one (`plan?_of_limit_le`). It then costs no more
than the best node was recorded at, but it may cost more than the plan found before (`plan?_cost_rises`): links that
were made since the best node was recorded can make the way to it cheaper than its record, and a node that only beats
the record takes its place.
-/

namespace GoalPlanner

/-! ## Finitely many snapshots -/

instance : Finite Truth := Set.finite_univ_iff.1 ((List.finite_toSet Truth.all).subset fun t _ => t.mem_all)

/-- Snapshots that speak of finitely many conditions are finitely many. -/
theorem Snapshot.finite_of_names (ns : List Name) : {s : Snapshot | ∀ n t, s.get? n = some t → n ∈ ns}.Finite := by
  have : Finite {n // n ∈ ns} := List.finite_toSet ns
  refine Set.Finite.of_injOn (f := fun s (n : {n // n ∈ ns}) => s.get? n) (Set.mapsTo_univ _ _) ?_ Set.finite_univ
  intro s hs t ht hst
  refine Snapshot.ext_get? fun n => ?_
  by_cases hn : n ∈ ns
  · exact congrFun hst ⟨n, hn⟩
  · have out {u : Snapshot} (hu : ∀ n t, u.get? n = some t → n ∈ ns) : u.get? n = none :=
      Option.eq_none_iff_forall_ne_some.2 fun v hv => hn (hu n v hv)
    rw [out hs, out ht]

theorem Snapshot.get?_setAll_eq_some {s : Snapshot} {es : List (Name × Truth)} {n : Name} {t : Truth}
    (h : (s.setAll es).get? n = some t) : s.get? n = some t ∨ n ∈ es.map Prod.fst := by
  induction es generalizing s with
  | nil => exact Or.inl h
  | cons e es ih =>
    rcases ih (s := s.set e.1 e.2) h with h | h
    · rw [Snapshot.get?_set] at h
      split at h
      · rename_i he
        exact Or.inr (List.mem_map.2 ⟨e, List.mem_cons_self, he⟩)
      · exact Or.inl h
    · exact Or.inr (List.mem_cons_of_mem _ h)

section

variable {κ : Type} [Cost κ]

/-- The conditions that a search can come to speak of. -/
def touched (start : Facts) (actions : List (Action κ)) : List Name :=
  start.keys ++ actions.flatMap fun a => a.eff.keys

/-- No action leads to a snapshot that speaks of other conditions than the start and the effects. -/
theorem Goal.confined (g : Goal κ) (start : Facts) (actions : List (Action κ)) :
    (g.problem (.ofFacts start) actions).Confined
      {s | ∀ n t, s.get? n = some t → n ∈ touched start actions} where
  start n t hn := by
    rw [Goal.problem, Snapshot.get?_ofFacts] at hn
    exact List.mem_append_left _ (Table.mem_keys_iff.2 (by rw [hn]; rfl))
  next a ha s hs m hm n t hn := by
    have ha : a ∈ actions := Action.mem_byName.1 ha
    obtain ⟨-, rfl⟩ : _ ∧ s.merge a.eff = m := by simpa [Goal.problem, Action.next?] using hm
    rcases Snapshot.get?_setAll_eq_some hn with hn | hn
    · exact hs n t hn
    · exact List.mem_append_right _ (List.mem_flatMap.2 ⟨a, ha, hn⟩)

end

/-! ## Every search comes to an end -/

variable {o m : Options} {start : Facts} {actions : List (Action Rat)} {g : Goal Rat}

/-- Every search ends with nothing waiting if only its limit is high enough. It is then not cut short and leaves no
note that says so, and the plan is the same for all such limits. -/
theorem find_exhausts (start : Facts) (actions : List (Action Rat)) (g : Goal Rat) :
    ∃ limit, ∀ o : Options, limit ≤ o.limit →
      (find o start actions g).search.queue.toList = [] ∧ (find o start actions g).cut = false ∧
      (∀ name steps waiting, .cutShort name steps waiting ∉ (find o start actions g).notes) ∧
      plan? o start actions g = plan? ⟨limit, o.trims⟩ start actions g := by
  have : Finite {s : Snapshot | ∀ n t, s.get? n = some t → n ∈ touched start actions} :=
    Snapshot.finite_of_names (touched start actions)
  obtain ⟨limit, hempty⟩ := Search.exists_run_eq_nil (g.confined start actions) (g.cost_nonneg _ actions)
  refine ⟨limit, fun o ho => ?_⟩
  have hrun : (find o start actions g).search = (find ⟨limit, o.trims⟩ start actions g).search := by
    rw [search_find, search_find, Search.run_of_le ho hempty]
  have hq : (find o start actions g).search.queue.toList = [] := by
    rw [hrun, search_find]
    exact hempty
  have hcut : (find o start actions g).cut = false := by
    rw [← Bool.not_eq_true, cut_find_iff, hq]
    simp
  exact ⟨hq, hcut, cutShort_notMem_notes hcut, by rw [plan?_eq, plan?_eq, hrun]⟩

/-! ## Higher limits -/

/-- A plan that is found with some limit is still found with a higher one. It then costs no more than what the best
node was recorded at. So it costs no more than the plan found before if the record was what that plan costs, or if
nothing is left waiting under the higher limit. -/
theorem plan?_of_limit_le (h : o.limit ≤ m.limit) {p : Plan Rat} (hp : plan? o start actions g = some p) :
    ∃ q n b, plan? m start actions g = some q ∧ (find o start actions g).search.best = some (n, b) ∧
      p.cost ≤ b ∧ q.cost ≤ b ∧
      (p.cost = b ∨ (find m start actions g).search.queue.toList = [] → q.cost ≤ p.cost) := by
  obtain ⟨hach, n, b, hb, hpb⟩ := achieves_of_plan? hp
  obtain ⟨k, c, hc, hcb⟩ : ∃ k c, (find m start actions g).search.best = some (k, c) ∧ c ≤ b := by
    rw [search_find] at hb ⊢
    exact Search.best_run_le h hb
  cases hq : plan? m start actions g with
  | none =>
    rw [plan?_eq_none_iff.1 hq] at hc
    cases hc
  | some q =>
    obtain ⟨-, k', c', hc', hqc⟩ := achieves_of_plan? hq
    rw [hc] at hc'
    cases hc'
    refine ⟨q, n, b, rfl, hb, hpb, le_trans hqc hcb, ?_⟩
    rintro (rfl | hempty)
    · exact le_trans hqc hcb
    · obtain ⟨k', c', hc', hle⟩ := best_le_of_achieves hempty (mem_actions_of_plan? hp) hach
      rw [hc] at hc'
      cases hc'
      exact le_trans hqc hle

namespace Tower

/-! A flag (`f`) is to be raised on top (`t`) of a tower. One can climb to the top from outside, at a high cost, or go
inside (`i`) and then ascend, or pull the flag up from inside. -/

def outside : Facts := Facts.uniform ["i", "t", "f"] .no

def climb : Action Rat :=
  ⟨"c", Facts.uniform ["i", "t"] .no, Facts.uniform ["t"] .yes, 1 / 2, 0, by decide, by norm_num⟩

def enter : Action Rat :=
  ⟨"e", Facts.uniform ["i", "t"] .no, Facts.uniform ["i"] .yes, 1 / 8, 0, by decide, by norm_num⟩

def pull : Action Rat :=
  ⟨"p", .ofList [("i", .yes), ("t", .no)], Facts.uniform ["t", "f"] .yes, 3 / 8, 0, by decide, by norm_num⟩

def raise : Action Rat :=
  ⟨"r", .ofList [("i", .no), ("t", .yes)], Facts.uniform ["f"] .yes, 1 / 8, 0, by decide, by norm_num⟩

def ascend : Action Rat :=
  ⟨"a", .ofList [("i", .yes), ("t", .no)], .ofList [("i", .no), ("t", .yes)], 1 / 8, 0, by decide, by norm_num⟩

def hoisted : Goal Rat := ⟨"h", Facts.uniform ["t", "f"] .yes, 1, "", by decide⟩

/-- The search after so many steps. -/
def search (limit : Nat) : Search Snapshot (Action Rat) Rat :=
  (find ⟨limit, false⟩ outside [climb, enter, pull, raise, ascend] hoisted).search

/-- The snapshot with this said of being inside, being on top and the flag. -/
def view (i t f : Truth) : Snapshot := .ofFacts (.ofList [("i", i), ("t", t), ("f", f)])

set_option maxRecDepth 100000 in
/-- After four steps the flag has been raised by climbing, and a cheaper way to the top has been linked. -/
theorem search_four : (search 4).readOff 4 = (some (view .no .yes .yes, 5 / 8, [enter, ascend, raise]), false) := by
  rw [search, search_find]
  cbv

set_option maxRecDepth 100000 in
/-- One step later the flag has been pulled up, which beats climbing. -/
theorem search_five : (search 5).readOff 4 = (some (view .yes .yes .yes, 1 / 2, [enter, pull]), false) := by
  rw [search, search_find]
  cbv

theorem plan?_four : plan? ⟨4, false⟩ outside [climb, enter, pull, raise, ascend] hoisted =
    some ⟨[enter, ascend, raise], hoisted, outside⟩ := plan?_of_readOff search_four (by decide)

theorem plan?_five : plan? ⟨5, false⟩ outside [climb, enter, pull, raise, ascend] hoisted =
    some ⟨[enter, pull], hoisted, outside⟩ := plan?_of_readOff search_five (by decide)

end Tower

open Tower in
/-- One more step makes the plan dearer, although no plan is trimmed. -/
theorem plan?_cost_rises : ∃ p q, plan? ⟨4, false⟩ outside [climb, enter, pull, raise, ascend] hoisted = some p ∧
    plan? ⟨5, false⟩ outside [climb, enter, pull, raise, ascend] hoisted = some q ∧ p.cost < q.cost := by
  refine ⟨_, _, plan?_four, plan?_five, ?_⟩
  norm_num [Plan.cost, enter, ascend, raise, pull]

open Tower in
/-- With one more step, a plan costs no more than climbing and raising the flag did. -/
theorem plan?_of_limit_le_tower : ∃ q n b,
    plan? ⟨5, false⟩ outside [climb, enter, pull, raise, ascend] hoisted = some q ∧ (search 4).best = some (n, b) ∧
      q.cost ≤ b := by
  obtain ⟨q, n, b, hq, hb, -, hle, -⟩ := plan?_of_limit_le (o := ⟨4, false⟩) (m := ⟨5, false⟩) (by decide) plan?_four
  exact ⟨q, n, b, hq, hb, hle⟩

end GoalPlanner
