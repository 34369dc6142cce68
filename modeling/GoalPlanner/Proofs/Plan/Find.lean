import GoalPlanner.Plan.Find
import GoalPlanner.Proofs.Plan.Trim
import GoalPlanner.Proofs.Search.Covered
import Mathlib

/-!
# The plan found is sound and cheapest

Carrying actions out from a state is walking through the snapshots of the search problem (`after_ofFacts`), so what is
known of walks is known of plans. Where one action is all there is, and it reaches the goal, it is the plan, whatever
costs are (`plan?_of_one_action`). With rational costs:

* a plan that is found consists of the given actions, can be carried out and reaches the goal; it is empty exactly if
  the goal is reached at the start (`find_sound`);
* a search that ran until nothing was waiting has found a plan if there is one, and the plan costs no more than any
  other way to the goal (`find_exact`). The estimate may be wrong in either direction.
-/

namespace GoalPlanner

/-! ## Carrying out and walking -/

section

variable {κ : Type} [Cost κ]

theorem Snapshot.ofFacts_apply (a : Action κ) (s : Facts) :
    Snapshot.ofFacts (a.apply s) = (Snapshot.ofFacts s).merge a.eff := by
  refine Snapshot.ext_get? fun n => ?_
  rw [Snapshot.get?_ofFacts, Snapshot.get?_merge (Snapshot.get?_ofFacts s)]
  rfl

theorem Action.next?_ofFacts (a : Action κ) (s : Facts) :
    a.next? (.ofFacts s) = if a.available s then some (.ofFacts (a.apply s)) else none := by
  rw [Action.next?, Snapshot.meets_ofFacts, Snapshot.ofFacts_apply]
  rfl

/-- Walking through the snapshots is carrying out. -/
theorem after_ofFacts (g : Goal κ) (start : Snapshot) (actions : List (Action κ)) (s : Facts) (as : List (Action κ)) :
    (g.problem start actions).after (.ofFacts s) as = (simulate s as).map .ofFacts := by
  induction as generalizing s with
  | nil => rfl
  | cons a as ih =>
    show ((a.next? (.ofFacts s)).bind fun t => (g.problem start actions).after t as) = _
    rw [Action.next?_ofFacts, simulate]
    split
    · exact ih _
    · rfl

theorem Action.mem_byName {as : List (Action κ)} {a : Action κ} : a ∈ Action.byName as ↔ a ∈ as :=
  List.mem_mergeSort

/-! ## Findings -/

/-- The search behind a finding. -/
theorem search_find (o : Options) (start : Facts) (actions : List (Action κ)) (g : Goal κ) :
    (find o start actions g).search = Search.run (g.problem (.ofFacts start) actions) o.limit := by
  unfold find
  dsimp only
  split <;> rfl

/-- A finding is cut short exactly if entries are left in the queue. -/
theorem cut_find_iff {o : Options} {start : Facts} {actions : List (Action κ)} {g : Goal κ} :
    (find o start actions g).cut = true ↔ (find o start actions g).search.queue.toList ≠ [] := by
  rw [search_find, ← Search.cut_run_iff]
  unfold find
  dsimp only
  split <;> rfl

/-- The plan is the way found by the search, trimmed if that is wanted. -/
theorem plan?_eq (o : Options) (start : Facts) (actions : List (Action κ)) (g : Goal κ) :
    plan? o start actions g =
      (find o start actions g).search.way?.map fun way =>
        ⟨(trimBy start g (if o.trims then [.backward, .forward] else []) way).1, g, start⟩ := by
  rw [search_find, plan?, find]
  dsimp only
  cases (Search.run (g.problem (.ofFacts start) actions) o.limit).way? <;> rfl

/-- Where the only action leads to a goal that is not reached yet, it is the plan. Of the costs just the comparisons are
needed that the search makes. -/
theorem plan?_of_one_action {o : Options} {start : Facts} {a : Action κ} {g : Goal κ} (ho : 2 ≤ o.limit)
    (hs : g.reached start = false) (ha : a.available start = true) (hg : g.reached (a.apply start) = true)
    (hzero : ¬(0 : κ) < 0) (hcost : ¬0 + a.cost < 0 + a.cost) (hbounded : Cost.bounded (0 + a.cost) = true) :
    plan? o start [a] g = some ⟨[a], g, start⟩ := by
  obtain ⟨limit, hl⟩ := Nat.exists_eq_add_of_le' ho
  have hway : (find o start [a] g).search.way? = some [a] := by
    have hstart : (g.problem (.ofFacts start) [a]).done (.ofFacts start) = false :=
      (Snapshot.meets_ofFacts start g.pre).trans hs
    have hnext : a.next? (.ofFacts start) = some (.ofFacts (a.apply start)) := (a.next?_ofFacts start).trans (if_pos ha)
    have hdone : (g.problem (.ofFacts start) [a]).done (.ofFacts (a.apply start)) = true :=
      (Snapshot.meets_ofFacts _ g.pre).trans hg
    rw [search_find, hl]
    exact Search.way?_run_of_one_action _ (List.mergeSort_singleton a) hstart hnext hdone hzero hcost hbounded limit
  have hach : achieves start [a] g = true := achieves_iff.2 ⟨a.apply start, by rw [simulate, if_pos ha]; rfl, hg⟩
  rw [plan?_eq, hway, Option.map_some]
  generalize hsweeps : (if o.trims then [Sweep.backward, .forward] else []) = sweeps
  -- trimming cannot leave nothing, which does not reach the goal
  rcases List.sublist_singleton.1 (sublist_trimBy start g sweeps [a]) with h | h
  · have hempty := achieves_trimBy sweeps hach
    rw [h] at hempty
    exact absurd hs (by rw [show g.reached start = true from hempty]; decide)
  · rw [h]

/-- Only a search that is cut short leaves a note that says so. -/
theorem cutShort_notMem_notes {o : Options} {start : Facts} {actions : List (Action κ)} {g : Goal κ}
    (h : (find o start actions g).cut = false) (name : String) (steps waiting : Nat) :
    .cutShort name steps waiting ∉ (find o start actions g).notes := by
  unfold find at h ⊢
  dsimp only at h ⊢
  split at h <;> simp only at h <;> simp [h]

/-- A plan consists of the given actions. -/
theorem mem_actions_of_plan? {o : Options} {start : Facts} {actions : List (Action κ)} {g : Goal κ} {p : Plan κ}
    (h : plan? o start actions g = some p) : ∀ a ∈ p.actions, a ∈ actions := by
  rw [plan?_eq, search_find] at h
  obtain ⟨way, hway, rfl⟩ := Option.map_eq_some_iff.1 h
  intro a ha
  exact Action.mem_byName.1 (Search.mem_actions_of_way? hway a ((sublist_trimBy ..).subset ha))

end

/-! ## Soundness -/

variable {o : Options} {start : Facts} {actions : List (Action Rat)} {g : Goal Rat}

theorem Goal.cost_nonneg (g : Goal Rat) (s : Snapshot) (actions : List (Action Rat)) :
    ∀ a ∈ (g.problem s actions).actions, 0 ≤ (g.problem s actions).cost a :=
  fun a _ => not_lt.1 a.nonneg

theorem grounded_find (o : Options) (start : Facts) (actions : List (Action Rat)) (g : Goal Rat) :
    Search.Grounded (g.problem (.ofFacts start) actions) (find o start actions g).search := by
  rw [search_find]
  exact Search.grounded_run (g.cost_nonneg _ _) o.limit

/-- What a best node says: its way achieves the goal and costs no more. -/
theorem way_of_best {n : Snapshot} {b : Rat} (h : (find o start actions g).search.best = some (n, b)) :
    ∃ way, (find o start actions g).search.way? = some way ∧ achieves start way g = true ∧
      Cost.sum (way.map Action.cost) ≤ b := by
  obtain ⟨way, hway, hd, hafter, htotal⟩ := (grounded_find o start actions g).way? h
  refine ⟨way, hway, ?_, htotal⟩
  rw [show (g.problem (.ofFacts start) actions).start = .ofFacts start from rfl, after_ofFacts] at hafter
  obtain ⟨t, ht, rfl⟩ := Option.map_eq_some_iff.1 hafter
  exact achieves_iff.2 ⟨t, ht, by rw [← hd]; exact (Snapshot.meets_ofFacts t g.pre).symm⟩

theorem plan?_eq_none_iff : plan? o start actions g = none ↔ (find o start actions g).search.best = none := by
  rw [plan?_eq, Option.map_eq_none_iff, Search.way?, Option.map_eq_none_iff]

/-- The plan, read off the search with fuel of which something is left over. -/
theorem plan?_of_readOff {fuel : Nat} {n : Snapshot} {b : Rat} {way : List (Action Rat)} {e : Bool}
    (h : (find o start actions g).search.readOff fuel = (some (n, b, way), e)) (hf : way.length < fuel) :
    plan? o start actions g =
      some ⟨(trimBy start g (if o.trims then [.backward, .forward] else []) way).1, g, start⟩ := by
  rw [plan?_eq, (grounded_find o start actions g).way?_of_readOff h hf, Option.map_some]

theorem cut_of_readOff {fuel : Nat} {x : Option (Snapshot × Rat × List (Action Rat))}
    (h : (find o start actions g).search.readOff fuel = (x, true)) : (find o start actions g).cut = false := by
  rw [← Bool.not_eq_true, cut_find_iff, not_not]
  exact List.isEmpty_iff.1 (congrArg Prod.snd h)

/-- A plan can be carried out and reaches the goal; it costs no more than the best node did. -/
theorem achieves_of_plan? {p : Plan Rat} (h : plan? o start actions g = some p) :
    achieves start p.actions g = true ∧
      ∃ n b, (find o start actions g).search.best = some (n, b) ∧ p.cost ≤ b := by
  cases hb : (find o start actions g).search.best with
  | none => rw [plan?_eq_none_iff.2 hb] at h; cases h
  | some x =>
    obtain ⟨n, b⟩ := x
    obtain ⟨way, hway, hach, hcost⟩ := way_of_best hb
    rw [plan?_eq, hway] at h
    cases h
    refine ⟨achieves_trimBy _ hach, n, b, rfl, le_trans ?_ hcost⟩
    refine Cost.sum_le_of_sublist ((sublist_trimBy ..).map _) fun c hc => ?_
    obtain ⟨a, -, rfl⟩ := List.mem_map.1 hc
    exact not_lt.1 a.nonneg

theorem plan?_of_reached (ho : 1 ≤ o.limit) (h : g.reached start = true) (actions : List (Action Rat)) :
    plan? o start actions g = some ⟨[], g, start⟩ := by
  have hd : (g.problem (.ofFacts start) actions).done (.ofFacts start) = true :=
    (Snapshot.meets_ofFacts start g.pre).trans h
  obtain ⟨limit, hl⟩ := Nat.exists_eq_add_of_le' ho
  have hway : (find o start actions g).search.way? = some [] := by
    rw [search_find, hl, Search.run_of_done _ (lt_irrefl 0) hd]
    rfl
  rw [plan?_eq, hway, Option.map_some, List.sublist_nil.1 (sublist_trimBy start g _ [])]

/-- A plan that is found consists of the given actions, can be carried out from the start and reaches the goal. If the
search may take a turn at all, the plan found is empty exactly where the goal is reached at the start. -/
theorem find_sound (o : Options) (start : Facts) (actions : List (Action Rat)) (g : Goal Rat) :
    (∀ p, plan? o start actions g = some p →
      (∀ a ∈ p.actions, a ∈ actions) ∧ (∃ t, simulate start p.actions = some t ∧ g.reached t = true) ∧
        p.start = start ∧ p.goal = g) ∧
    (1 ≤ o.limit → ((∃ p, plan? o start actions g = some p ∧ p.actions = []) ↔ g.reached start = true)) := by
  refine ⟨fun p h => ?_, fun ho => ⟨?_, fun h => ⟨_, plan?_of_reached ho h actions, rfl⟩⟩⟩
  · refine ⟨mem_actions_of_plan? h, achieves_iff.1 (achieves_of_plan? h).1, ?_⟩
    rw [plan?_eq] at h
    obtain ⟨way, -, rfl⟩ := Option.map_eq_some_iff.1 h
    exact ⟨rfl, rfl⟩
  · rintro ⟨p, h, hp⟩
    have hach := (achieves_of_plan? h).1
    rwa [hp] at hach

/-! ## Exactness -/

/-- Where nothing is left waiting, any way to the goal costs no less than the best node. -/
theorem best_le_of_achieves (h : (find o start actions g).search.queue.toList = []) {as : List (Action Rat)}
    (has : ∀ a ∈ as, a ∈ actions) (hach : achieves start as g = true) :
    ∃ n b, (find o start actions g).search.best = some (n, b) ∧ b ≤ Cost.sum (as.map Action.cost) := by
  obtain ⟨t, ht, hg⟩ := achieves_iff.1 hach
  have hafter : (g.problem (.ofFacts start) actions).after (.ofFacts start) as = some (.ofFacts t) := by
    rw [after_ofFacts, ht, Option.map_some]
  have hc : Search.Covered (g.problem (.ofFacts start) actions) (find o start actions g).search := by
    rw [search_find]
    exact Search.covered_run (g.cost_nonneg _ _) o.limit
  exact hc.best_le (grounded_find o start actions g) h (g.cost_nonneg _ _)
    (fun a ha => Action.mem_byName.2 (has a ha)) hafter ((Snapshot.meets_ofFacts t g.pre).trans hg)

/-- Where no plan is found and nothing is left waiting, the goal is out of reach. -/
theorem not_achieves_of_plan?_eq_none (hcut : (find o start actions g).cut = false)
    (h : plan? o start actions g = none) {as : List (Action Rat)} (has : ∀ a ∈ as, a ∈ actions) :
    achieves start as g = false := by
  have hq : (find o start actions g).search.queue.toList = [] := by
    rw [← Bool.not_eq_true, cut_find_iff] at hcut
    exact not_not.1 hcut
  rw [← Bool.not_eq_true]
  intro hach
  obtain ⟨n, b, hb, -⟩ := best_le_of_achieves hq has hach
  rw [plan?_eq_none_iff.1 h] at hb
  cases hb

/-- A search that ends with nothing waiting, and hence without a note that it was cut short, finds no plan exactly if
no sequence of the given actions achieves the goal, and a plan that it finds costs no more than any such sequence. -/
theorem find_exact (o : Options) (start : Facts) (actions : List (Action Rat)) (g : Goal Rat)
    (h : (find o start actions g).search.queue.toList = []) :
    (∀ name steps waiting, .cutShort name steps waiting ∉ (find o start actions g).notes) ∧
    (plan? o start actions g = none ↔
      ∀ as : List (Action Rat), (∀ a ∈ as, a ∈ actions) → achieves start as g = false) ∧
    ∀ p, plan? o start actions g = some p →
      ∀ as : List (Action Rat), (∀ a ∈ as, a ∈ actions) → achieves start as g = true →
        p.cost ≤ Cost.sum (as.map Action.cost) := by
  have hcut : (find o start actions g).cut = false := by
    rw [← Bool.not_eq_true, cut_find_iff, h]
    simp
  refine ⟨cutShort_notMem_notes hcut, ⟨fun hn as has => not_achieves_of_plan?_eq_none hcut hn has, fun hno => ?_⟩,
    fun p hp as has hach => ?_⟩
  · cases hp : plan? o start actions g with
    | none => rfl
    | some p =>
      have hach := (achieves_of_plan? hp).1
      rw [hno p.actions (mem_actions_of_plan? hp)] at hach
      cases hach
  · obtain ⟨-, n, b, hb, hle⟩ := achieves_of_plan? hp
    obtain ⟨n', b', hb', hle'⟩ := best_le_of_achieves h has hach
    rw [hb] at hb'
    cases hb'
    exact le_trans hle hle'

namespace Door

/-! A door (`d`) can be forced at a high cost, or unlocked with a key (`k`) that has to be fetched. -/

def fetch : Action Rat := ⟨"f", ∅, Facts.uniform ["k"] .yes, 1, 0, by decide, by decide⟩

def force : Action Rat := ⟨"g", ∅, Facts.uniform ["d"] .yes, 5, 0, by decide, by decide⟩

def unlock : Action Rat := ⟨"u", Facts.uniform ["k"] .yes, Facts.uniform ["d"] .yes, 1, 0, by decide, by decide⟩

def opened : Goal Rat := ⟨"o", Facts.uniform ["d"] .yes, 1, "", by decide⟩

def domain : Domain Rat := ⟨[unlock], [opened], by decide, by decide⟩

/-- The door, with everything that can be done about it. -/
def visit : Domain Rat := { domain with actions := [fetch, force, unlock], actionNames := by decide }

variable {start : Facts}

theorem reached_opened : opened.reached start = true ↔ start.get? "d" = some .yes := by
  show (start.get? "d" == some .yes && true) = true ↔ _
  simp

theorem available_unlock : unlock.available start = true ↔ start.get? "k" = some .yes := by
  show (start.get? "k" == some .yes && true) = true ↔ _
  simp

/-- With the key at hand the door is unlocked. -/
theorem plan?_keyed (hkey : start.get? "k" = some .yes) (hdoor : start.get? "d" ≠ some .yes) :
    plan? ⟨10, true⟩ start [unlock] opened = some ⟨[unlock], opened, start⟩ := by
  have happly : (unlock.apply start).get? "d" = some .yes := by
    rw [Action.apply, Table.get?_merge]
    rfl
  exact plan?_of_one_action (by decide) (by rwa [← Bool.not_eq_true, reached_opened]) (available_unlock.2 hkey)
    (reached_opened.2 happly) (lt_irrefl 0) (lt_irrefl _) rfl

/-- Without the key it stays shut. -/
theorem plan?_keyless (hkey : start.get? "k" ≠ some .yes) (hdoor : start.get? "d" ≠ some .yes) :
    plan? ⟨10, true⟩ start [unlock] opened = none := by
  cases hp : plan? ⟨10, true⟩ start [unlock] opened with
  | none => rfl
  | some p =>
    have hach := (achieves_of_plan? hp).1
    have hmem := mem_actions_of_plan? hp
    generalize p.actions = as at hach hmem
    cases as with
    | nil => exact absurd (reached_opened.1 hach) hdoor
    | cons a as =>
      have havailable := (achieves_cons.1 hach).1
      rw [List.mem_singleton.1 (hmem a List.mem_cons_self)] at havailable
      exact absurd (available_unlock.1 havailable) hkey

end Door

open Door in
set_option maxRecDepth 100000 in
/-- The search for a way through the door ends with nothing waiting; whatever it finds costs no more than the key. -/
theorem find_exact_door :
    (find ⟨10, true⟩ ∅ [unlock, force, fetch] opened).search.queue.toList = [] ∧
    ∀ p, plan? ⟨10, true⟩ ∅ [unlock, force, fetch] opened = some p → p.cost ≤ 2 := by
  have h : (find ⟨10, true⟩ ∅ [unlock, force, fetch] opened).search.queue.toList = [] := by
    rw [search_find]
    cbv
  refine ⟨h, fun p hp => ?_⟩
  have := (find_exact ⟨10, true⟩ ∅ [unlock, force, fetch] opened h).2.2 p hp [fetch, unlock] (by simp) (by cbv)
  simp only [List.map_cons, List.map_nil, Cost.sum_cons, Cost.sum_nil, fetch, unlock] at this
  linarith

end GoalPlanner
