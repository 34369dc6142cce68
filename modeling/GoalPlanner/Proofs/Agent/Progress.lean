import GoalPlanner.Agent.Setup
import GoalPlanner.Proofs.Agent.Life
import GoalPlanner.Proofs.Flags
import GoalPlanner.Proofs.Plan.Mirror
import GoalPlanner.Proofs.Plan.Prune
import Mathlib

/-!
# Where actions work, runs make progress

An agent plans anew before every action, and the new plan need not be the rest of the old one. But the rest of a
cheapest sequence is cheapest from where its first action leads (`Cheapest.tail`), so if actions have the effects that
are expected of them, the new plan costs what is left of the old one. Along a run, the cost of what was done and of what
is left stay the same together (`Spent`, `Run.OnTrack`), so that the run never gets stuck and what is done in the end
costs what the first plan did (`Agent.run_progress`).
-/

namespace GoalPlanner

/-! ## What is left of a cheapest sequence -/

namespace Cheapest

variable {s t : Facts} {actions as : List (Action Rat)} {a : Action Rat} {g : Goal Rat}

/-- The rest of a cheapest sequence is cheapest from where its first action leads. -/
theorem tail (h : Cheapest s actions g (a :: as)) : Cheapest (a.apply s) actions g as := by
  have hmem := List.forall_mem_cons.1 h.mem
  obtain ⟨hav, hach⟩ := achieves_cons.1 h.achieves
  refine ⟨hmem.2, hach, fun bs hbs hbach => ?_⟩
  have hle := h.le (a :: bs) (List.forall_mem_cons.2 ⟨hmem.1, hbs⟩) (achieves_cons.2 ⟨hav, hbach⟩)
  simpa using hle

/-- What is cheapest depends only on what the state says of the conditions. -/
theorem congr (hst : ∀ n, s.get? n = t.get? n) (h : Cheapest s actions g as) : Cheapest t actions g as := by
  have hach (bs : List (Action Rat)) := achieves_of_get?_eq hst bs g
  exact ⟨h.mem, (hach as).symm.trans h.achieves, fun bs hbs hbach => h.le bs hbs ((hach bs).trans hbach)⟩

end Cheapest

/-! ## What has been spent -/

/-- Plans and actions done by them, one after the other, from one cost ahead to another: each plan costs what is still
ahead, and its action takes its own cost off that. -/
inductive Spent (actions : List (Action Rat)) : Rat → List (Plan Rat × Action Rat) → Rat → Prop
  | nil (ahead : Rat) : Spent actions ahead [] ahead
  | cons {plan : Plan Rat} {action : Action Rat} {done : List (Plan Rat × Action Rat)} {left : Rat}
    (ha : action ∈ actions) (h : Spent actions (plan.cost - action.cost) done left) :
    Spent actions plan.cost ((plan, action) :: done) left

namespace Spent

variable {actions : List (Action Rat)} {ahead left : Rat} {done : List (Plan Rat × Action Rat)}
  {plan : Plan Rat} {action : Action Rat}

theorem snoc (h : Spent actions ahead done plan.cost) (ha : action ∈ actions) :
    Spent actions ahead (done ++ [(plan, action)]) (plan.cost - action.cost) := by
  generalize hleft : plan.cost = left at h
  induction h with
  | nil =>
    subst hleft
    exact .cons ha (.nil _)
  | cons hb _ ih => exact .cons hb (ih hleft)

theorem mem (h : Spent actions ahead done left) : ∀ d ∈ done, d.2 ∈ actions := by
  induction h with
  | nil => exact List.forall_mem_nil _
  | cons ha _ ih => exact List.forall_mem_cons.2 ⟨ha, ih⟩

theorem total (h : Spent actions ahead done left) : Cost.sum (done.map fun d => d.2.cost) = ahead - left := by
  induction h with
  | nil => simp
  | cons _ _ ih =>
    rw [List.map_cons, Cost.sum_cons, ih]
    ring

variable {last pre post : List (Notice Rat)} {p p' : Plan Rat}

/-- The plan that is told first costs what is ahead. -/
theorem cost_of_planned (h : Spent actions ahead done left)
    (hlast : ∀ p, last.head? = some (.planned p) → p.cost = left)
    (heq : Notice.ofDone done ++ last = .planned p :: post) : p.cost = ahead := by
  cases h with
  | nil => exact hlast p (by rw [show last = _ from heq, List.head?_cons])
  | cons =>
    cases heq
    rfl

/-- A plan that is told after an action costs what the plan told before it did, less the action. -/
theorem cost_of_replanned (h : Spent actions ahead done left)
    (hlast : ∀ p, last.head? = some (.planned p) → p.cost = left) (hend : ∀ n, .executed n ∉ last) {n : String}
    (heq : Notice.ofDone done ++ last = pre ++ .planned p :: .executed n :: .planned p' :: post) :
    ∃ b ∈ actions, b.name = n ∧ p'.cost = p.cost - b.cost := by
  induction h generalizing pre with
  | nil =>
    have heq : last = _ := heq
    exact absurd (heq ▸ List.mem_append_right _ (.tail _ (.head _))) (hend n)
  | @cons plan action done _ ha hrest ih =>
    have heq : .planned plan :: .executed action.name :: (Notice.ofDone done ++ last) =
      pre ++ .planned p :: .executed n :: .planned p' :: post := heq
    -- notices are told in pairs, so no plan is found in the second place of one
    match pre with
    | [] =>
      injection heq with hplan heq
      injection heq with hname heq
      injection hplan with hplan
      injection hname with hname
      exact ⟨action, ha, hname, by rw [hrest.cost_of_planned hlast heq, hplan]⟩
    | [_] =>
      injection heq with _ heq
      injection heq with hname
      cases hname
    | _ :: _ :: pre =>
      injection heq with _ heq
      injection heq with _ heq
      exact ih hlast heq

end Spent

/-! ## Planning by the flags -/

variable {τ : Type} {a : Agent Rat (World × τ)} {o : Options} {d : Domain Rat} {g : Goal Rat}

namespace Agent

/-- An agent that always plans for one goal from what the flags say, and leaves the blackboard as it is. -/
def PlansBy (a : Agent Rat (World × τ)) (o : Options) (d : Domain Rat) (g : Goal Rat) : Prop :=
  ∀ history s, ∃ x t, (a.planner history).outcome s = (.ok x, t) ∧
    t.world.1.blackboard = s.world.1.blackboard ∧
    x.map Plan.course = (plan? o (d.seen s.world.1.blackboard) d.actions g).map Plan.course

/-- Over a blackboard, an agent for one goal plans by the flags if all conditions are flags. -/
theorem plansBy_overBlackboard {conditions : List (Condition Rat)} (hgoal : d.goals = [g])
    (hflags : ∀ n ∈ d.conditions, ∃ key, IsFlag conditions n key) (id : String) (maxActions : Int) (o : Options)
    (deferAbove : Option Rat) (execute : Action Rat → Effect (World × τ) Unit) :
    (overBlackboard id d maxActions o (.ofDomain d conditions deferAbove) execute).PlansBy o d g := by
  intro history s
  obtain ⟨ps, t, hps, ht, hfollow⟩ :=
    (Domain.fixed_seen hflags deferAbove history s.world.1.blackboard).outcome_plansToGoals
      (by rw [Domain.unknowns_seen]; exact Nat.zero_le 1) o d (s := ⟨s.world.1, s.log⟩) rfl
  rw [Facts.answered_of_known Domain.unknowns_seen, Follow, hgoal, Goal.byName, List.mergeSort_singleton] at hfollow
  have hcourse : ps.map Plan.course =
      ((plan? o (d.seen s.world.1.blackboard) d.actions g).map Plan.course).toList := by
    rw [hfollow, List.filterMap_cons, List.filterMap_nil]
    cases (plan? o (d.seen s.world.1.blackboard) d.actions g).map Plan.course with
    | none | some => rfl
  have hlen : ps.length ≤ 1 := by
    rw [← List.length_map Plan.course, hcourse]
    exact Option.length_toList_le
  refine ⟨ps.head?, ⟨(t.world, s.world.2), t.log⟩, ?_, ht, ?_⟩
  · have hbest : (bestPlan ((Resolution.ofDomain d conditions deferAbove).resolver history) o d).outcome
        ⟨s.world.1, s.log⟩ = (.ok ps.head?, t) := by
      rw [bestPlan, Effect.outcome_bind_of_ok hps, rank_of_length_le_one hlen]
      rfl
    have hzoom := Effect.outcome_zoom Prod.fst (fun w (v : World × τ) => (w, v.2))
      (bestPlan ((Resolution.ofDomain d conditions deferAbove).resolver history) o d) s
    rw [hbest] at hzoom
    exact hzoom
  · rw [← List.head?_map, hcourse]
    cases (plan? o (d.seen s.world.1.blackboard) d.actions g).map Plan.course with
    | none | some => rfl

namespace PlansBy

variable {history : List String} {s t : Session (World × τ)} {plan : Plan Rat} {as : List (Action Rat)}

theorem blackboard (h : a.PlansBy o d g) {x : Option (Plan Rat)}
    (hplan : (a.planner history).outcome s = (.ok x, t)) : t.world.1.blackboard = s.world.1.blackboard := by
  obtain ⟨y, u, hok, hu, -⟩ := h history s
  rw [hplan] at hok
  cases hok
  exact hu

theorem course (h : a.PlansBy o d g) {x : Option (Plan Rat)} (hplan : (a.planner history).outcome s = (.ok x, t)) :
    x.map Plan.course = (plan? o (d.seen s.world.1.blackboard) d.actions g).map Plan.course := by
  obtain ⟨y, u, hok, -, hcourse⟩ := h history s
  rw [hplan] at hok
  cases hok
  exact hcourse

/-- The plan of such an agent is cheapest, if its search is not cut short. -/
theorem cheapest (h : a.PlansBy o d g) (hcut : (find o (d.seen s.world.1.blackboard) d.actions g).cut = false)
    (hplan : (a.planner history).outcome s = (.ok (some plan), t)) :
    Cheapest (d.seen s.world.1.blackboard) d.actions g plan.actions := by
  obtain ⟨p, hp, hcourse⟩ := Option.map_eq_some_iff.1 (h.course hplan).symm
  have hactions : p.actions = plan.actions := congrArg Prod.snd hcourse
  rw [← hactions]
  exact cheapest_of_plan? hcut hp

/-- Where the goal is within reach, such an agent has a plan. -/
theorem ne_none (h : a.PlansBy o d g) (hcut : (find o (d.seen s.world.1.blackboard) d.actions g).cut = false)
    (has : Cheapest (d.seen s.world.1.blackboard) d.actions g as) :
    (a.planner history).outcome s ≠ (.ok none, t) := by
  intro hplan
  obtain ⟨p, hp⟩ := exists_plan? hcut has.mem has.achieves
  have hcourse := h.course hplan
  rw [hp] at hcourse
  cases hcourse

end PlansBy

end Agent

/-! ## Runs on track -/

namespace Run

/-- A run of which the actions done and what is left to do cost together what was ahead at first: as long as it goes on,
the cheapest way to the goal costs what is left, and where it is complete, nothing is left. -/
structure OnTrack (a : Agent Rat (World × τ)) (d : Domain Rat) (g : Goal Rat) (ahead : Rat)
    (q : Run Rat (World × τ)) (done : List (Plan Rat × Action Rat)) (last : List (Notice Rat)) (left : Rat) :
    Prop where
  account : q.Account [] done last
  spent : Spent d.actions ahead done left
  standing :
    (q.status = .running ∧ ∃ as, Cheapest (d.seen q.session.world.1.blackboard) d.actions g as ∧
      Cost.sum (as.map Action.cost) = left) ∨
    (q.status = .completed ∧ left = 0) ∨ (q.status = .terminated ∧ a.maxActions ≤ q.history.length)

variable {q r : Run Rat (World × τ)} {ahead left : Rat} {done : List (Plan Rat × Action Rat)}
  {last : List (Notice Rat)}

namespace OnTrack

theorem cheapest (h : q.OnTrack a d g ahead done last left) (hq : q.status = .running) :
    ∃ as, Cheapest (d.seen q.session.world.1.blackboard) d.actions g as ∧ Cost.sum (as.map Action.cost) = left := by
  rcases h.standing with ⟨-, has⟩ | ⟨hs, -⟩ | ⟨hs, -⟩
  · exact has
  · rw [hq] at hs
    cases hs
  · rw [hq] at hs
    cases hs

/-- A run on track has not got stuck, and no action has failed. -/
theorem status_ne (h : q.OnTrack a d g ahead done last left) : q.status ≠ .stuck ∧ q.status ≠ .failed := by
  rcases h.standing with ⟨hs, -⟩ | ⟨hs, -⟩ | ⟨hs, -⟩ <;> simp [hs]

/-- If actions work and the search is not cut short, a run is still on track after a tick. -/
theorem exists_of_turn (h : q.OnTrack a d g ahead done last left) (hplans : a.PlansBy o d g)
    {conditions : List (Condition Rat)} (hflags : ∀ n ∈ d.conditions, ∃ key, IsFlag conditions n key)
    (hdef : ∀ b ∈ d.actions, ∀ n, b.eff.get? n ≠ some .unknown) (hworks : ∀ b ∈ d.actions, SetsFlags a.execute b)
    (hcut : q.status = .running → q.history.length < a.maxActions →
      (find o (d.seen q.session.world.1.blackboard) d.actions g).cut = false)
    {x : Except Failure Status} (ht : a.Turn q x r) : ∃ done last left, r.OnTrack a d g ahead done last left := by
  cases ht with
  | ended => exact ⟨done, last, left, h⟩
  | spent hq hfull => exact ⟨done, _, left, h.account.close hq (.terminated _) _ _, h.spent, .inr (.inr ⟨rfl, hfull⟩)⟩
  | raised _ _ hplan =>
    obtain ⟨x, t, hok, -⟩ := hplans q.history q.session
    rw [hplan] at hok
    cases hok
  | stuck hq hroom hplan =>
    obtain ⟨as, has, -⟩ := h.cheapest hq
    exact absurd hplan (hplans.ne_none (hcut hq hroom) has)
  | @complete plan s hq hroom hplan hactions t =>
    obtain ⟨as, has, hleft⟩ := h.cheapest hq
    have hzero : left = 0 := by
      rw [← hleft, has.cost_eq (hplans.cheapest (hcut hq hroom) hplan), hactions]
      rfl
    rw [List.append_assoc]
    exact ⟨done, _, left, h.account.close hq (.completed hactions _) _ _, h.spent, .inr (.inl ⟨rfl, hzero⟩)⟩
  | @failed plan action rest s u f hq hroom hplan hactions l hexec t =>
    have hmem := (hplans.cheapest (hcut hq hroom) hplan).mem action (hactions ▸ .head _)
    obtain ⟨v, hok, -⟩ := hworks action hmem ⟨s.world, l⟩
    rw [hexec] at hok
    cases hok
  | @acted plan action rest s u hq hroom hplan hactions l hexec t ht =>
    obtain ⟨as, has, hleft⟩ := h.cheapest hq
    have hcheapest := hplans.cheapest (hcut hq hroom) hplan
    have hcost : plan.cost = left := (hcheapest.cost_eq has).trans hleft
    rw [hactions] at hcheapest
    have hmem := hcheapest.mem action (.head _)
    -- the flags now say what the action was expected to lead to
    obtain ⟨v, hok, hset⟩ := hworks action hmem ⟨s.world, l⟩
    rw [hexec] at hok
    cases hok
    rw [hplans.blackboard hplan] at hset
    have hseen := Domain.get?_seen_apply hflags hmem (hdef action hmem) hset
    refine ⟨_, _, plan.cost - action.cost, h.account.act hq (by rw [hactions, List.head?_cons]) _ _,
      Spent.snoc (hcost ▸ h.spent) hmem, .inl ⟨hq, rest, ?_, ?_⟩⟩
    · rw [ht]
      exact hcheapest.tail.congr hseen
    · rw [Plan.cost, hactions, List.map_cons, Cost.sum_cons]
      ring

/-- A plan that is told after an action costs what the plan told before it did, less the action. -/
theorem cost_of_replanned (h : q.OnTrack a d g ahead done last left) {pre post : List (Notice Rat)} {p p' : Plan Rat}
    {n : String} (heq : q.notices = pre ++ .planned p :: .executed n :: .planned p' :: post) :
    ∃ b ∈ d.actions, b.name = n ∧ p'.cost = p.cost - b.cost := by
  have hending := h.account.ending
  rw [h.account.notices] at heq
  refine h.spent.cost_of_replanned (fun p hp => ?_) (fun n hn => ?_) heq
  · rcases h.standing with ⟨hs, -⟩ | ⟨hs, hzero⟩ | ⟨hs, -⟩
    · rw [h.account.last_eq_nil hs] at hp
      cases hp
    · rw [hs] at hending
      cases hending with
      | completed hplan =>
        cases hp
        rw [hzero, Plan.cost, hplan]
        rfl
    · rw [hs] at hending
      cases hending
      cases hp
  · generalize q.status = s at hending
    generalize q.history = hist at hending
    cases hending <;> simp at hn

/-- A run on track ends for lack of room, or completed by actions that cost together what was ahead. -/
theorem at_end (h : q.OnTrack a d g ahead done last left) (hend : q.status.isTerminal = true) :
    (q.status = .terminated ∧ a.maxActions ≤ q.history.length) ∨
      (q.status = .completed ∧ ∃ as : List (Action Rat), (∀ b ∈ as, b ∈ d.actions) ∧
        q.history = as.map Action.name ∧ Cost.sum (as.map Action.cost) = ahead) := by
  rcases h.standing with ⟨hs, -⟩ | ⟨hs, hzero⟩ | hs
  · rw [hs] at hend
    cases hend
  · refine .inr ⟨hs, done.map Prod.snd, List.forall_mem_map.2 h.spent.mem, ?_, ?_⟩
    · rw [List.map_map]
      exact h.account.history
    · have htotal := h.spent.total
      rw [hzero, sub_zero] at htotal
      rw [List.map_map]
      exact htotal
  · exact .inl hs

end OnTrack

end Run

/-- What the next tick of a run plans from: the state that the world supplies, if the run goes on and has room. -/
def Run.PlansFrom (r : Resolution Rat) (a : Agent Rat (World × τ)) (q : Run Rat (World × τ)) (start : Facts) : Prop :=
  q.status = .running ∧ q.history.length < a.maxActions ∧
    ∃ t, (r.resolver q.history).state.outcome ⟨q.session.world.1, q.session.log⟩ = (.ok start, t)

namespace Agent

/-- The plan that is kept after the first tick is what the planner said. -/
theorem lastPlan_tick_iff {s : Session (World × τ)} {first : Plan Rat} :
    (a.tick (.start [] s)).2.lastPlan = some first ↔
      0 < a.maxActions ∧ ∃ t, (a.planner []).outcome s = (.ok (some first), t) := by
  rcases hx : a.tick (.start [] s) with ⟨x, r⟩
  cases turn_of_tick_eq hx with
  | ended hend => cases hend
  | spent _ hfull => exact ⟨nofun, fun ⟨hmax, _⟩ => absurd hfull (not_le.2 hmax)⟩
  | raised _ _ hplan | stuck _ _ hplan =>
    refine ⟨nofun, fun ⟨_, t, hok⟩ => ?_⟩
    cases hplan.symm.trans hok
  | complete _ hroom hplan | failed _ hroom hplan | acted _ hroom hplan =>
    constructor
    · rintro ⟨⟩
      exact ⟨hroom, _, hplan⟩
    · rintro ⟨-, t, hok⟩
      cases hplan.symm.trans hok
      rfl

/-- If actions work and no search is cut short, a run whose first tick has a plan is on track after any number of ticks.
-/
theorem onTrack_after (hplans : a.PlansBy o d g) {conditions : List (Condition Rat)}
    (hflags : ∀ n ∈ d.conditions, ∃ key, IsFlag conditions n key)
    (hdef : ∀ b ∈ d.actions, ∀ n, b.eff.get? n ≠ some .unknown) (hworks : ∀ b ∈ d.actions, SetsFlags a.execute b)
    {s : Session (World × τ)}
    (hcut : ∀ n, (a.after n (.start [] s)).status = .running →
      (a.after n (.start [] s)).history.length < a.maxActions →
        (find o (d.seen (a.after n (.start [] s)).session.world.1.blackboard) d.actions g).cut = false)
    {first : Plan Rat} (hfirst : (a.tick (.start [] s)).2.lastPlan = some first) (n : Nat) :
    ∃ done last left, (a.after n (.start [] s)).OnTrack a d g first.cost done last left := by
  induction n with
  | zero =>
    obtain ⟨hmax, t, hplan⟩ := lastPlan_tick_iff.1 hfirst
    exact ⟨[], [], first.cost, Run.account_start [] s, .nil _,
      .inl ⟨rfl, first.actions, hplans.cheapest (hcut 0 rfl hmax) hplan, rfl⟩⟩
  | succ n ih =>
    obtain ⟨done, last, left, h⟩ := ih
    rw [after_succ]
    exact h.exists_of_turn hplans hflags hdef hworks (hcut n) (a.turn_tick _)

/-- Where actions work, runs make progress. Let all conditions of a domain with one goal be flags, let all effects be
definite, and let actions be carried out by setting their effects as flags, and let no search that is made be cut short.
If the first tick has a plan, then the run never gets stuck; a plan that is told after an action costs what the plan
before did, less the action; and the run ends for lack of room for actions, or completed by actions that cost together
what the first plan did. -/
theorem run_progress {conditions : List (Condition Rat)} (hgoal : d.goals = [g])
    (hflags : ∀ n ∈ d.conditions, ∃ key, IsFlag conditions n key)
    (hdef : ∀ b ∈ d.actions, ∀ n, b.eff.get? n ≠ some .unknown) {execute : Action Rat → Effect (World × τ) Unit}
    (hworks : ∀ b ∈ d.actions, SetsFlags execute b) {id : String} {maxActions : Int} {deferAbove : Option Rat}
    (ha : a = .overBlackboard id d maxActions o (.ofDomain d conditions deferAbove) execute) (s : Session (World × τ))
    (hcut : ∀ n start, (a.after n (.start [] s)).PlansFrom (.ofDomain d conditions deferAbove) a start →
      (find o start d.actions g).cut = false)
    {first : Plan Rat} (hfirst : (a.tick (.start [] s)).2.lastPlan = some first) :
    (∀ n, (a.after n (.start [] s)).status ≠ .stuck ∧ ∀ pre post p name p',
      (a.after n (.start [] s)).notices = pre ++ .planned p :: .executed name :: .planned p' :: post →
        ∃ b ∈ d.actions, b.name = name ∧ p'.cost = p.cost - b.cost) ∧
    ∃ q, (a.run (.start [] s) = (.ok .terminated, q) ∧ maxActions ≤ q.history.length) ∨
      (a.run (.start [] s) = (.ok .completed, q) ∧ ∃ as : List (Action Rat), (∀ b ∈ as, b ∈ d.actions) ∧
        q.history = as.map Action.name ∧ Cost.sum (as.map Action.cost) = first.cost) := by
  have hplans : a.PlansBy o d g := ha ▸ plansBy_overBlackboard hgoal hflags id maxActions o deferAbove execute
  have hmade (n : Nat) (hq : (a.after n (.start [] s)).status = .running)
      (hroom : (a.after n (.start [] s)).history.length < a.maxActions) :
      (find o (d.seen (a.after n (.start [] s)).session.world.1.blackboard) d.actions g).cut = false := by
    obtain ⟨t, -, hstate⟩ := (Domain.fixed_seen hflags deferAbove (a.after n (.start [] s)).history _).state
      ⟨(a.after n (.start [] s)).session.world.1, (a.after n (.start [] s)).session.log⟩ rfl
    exact hcut n _ ⟨hq, hroom, t, hstate⟩
  have htrack := onTrack_after hplans hflags hdef (ha ▸ hworks) hmade hfirst
  have hnever (history : List String) (t : Session (World × τ)) :
      ∃ plan u, (a.planner history).outcome t = (.ok plan, u) := by
    obtain ⟨plan, u, hok, -⟩ := hplans history t
    exact ⟨plan, u, hok⟩
  constructor
  · intro n
    obtain ⟨done, last, left, h⟩ := htrack n
    exact ⟨h.status_ne.1, fun pre post p name p' heq => h.cost_of_replanned heq⟩
  · obtain ⟨hend, hresult⟩ := run_ends hnever (.start [] s)
    obtain ⟨n, -, hn⟩ := exists_run_eq_after (a := a) (.start [] s)
    obtain ⟨done, last, left, h⟩ := htrack n
    rw [← hn] at h
    have hok : (a.run (.start [] s)).1 = .ok (a.run (.start [] s)).2.status := by
      rcases hresult with hok | ⟨f, name, -, hfailed, -⟩
      · exact hok
      · exact absurd hfailed h.status_ne.2
    have hmax : a.maxActions = maxActions := by
      rw [ha]
      rfl
    refine ⟨(a.run (.start [] s)).2, ?_⟩
    rcases h.at_end hend with ⟨hs, hfull⟩ | ⟨hs, has⟩
    · exact .inl ⟨Prod.ext (hok.trans (congrArg _ hs)) rfl, hmax ▸ hfull⟩
    · exact .inr ⟨Prod.ext (hok.trans (congrArg _ hs)) rfl, has⟩

end Agent

namespace Door

/-- Sets the flags of what an action brings about. -/
def carryOut (a : Action Rat) : Effect (World × Unit) Unit :=
  Effect.change fun w =>
    ({ w.1 with blackboard := a.eff.keys.foldl (fun b n => b.setFlag n.shown true) w.1.blackboard }, ())

/-- An agent at the door whose actions work. -/
def worker : Agent Rat (World × Unit) := .overBlackboard "w" visit 10 ⟨10, true⟩ (.ofDomain visit [] none) carryOut

theorem setsFlags_carryOut {a : Action Rat} {c : String} (h : a.eff = Facts.uniform [c] .yes) :
    SetsFlags carryOut a := by
  intro s
  refine ⟨_, rfl, fun key => ?_⟩
  rw [h]
  show (s.world.1.blackboard.flags.set c true).get? key =
    ((((∅ : Facts).set c .yes).get? key).map fun v => v == .yes).or _
  rw [Table.get?_set, Table.get?_set]
  by_cases hc : c = key
  · simp [hc]
  · have hnone : (∅ : Facts).get? key = none := rfl
    simp [hc, hnone]

theorem conditions_visit : visit.conditions = [.text "k", .text "d"] := by
  cbv

theorem isFlag_visit : ∀ n ∈ visit.conditions, ∃ key, IsFlag (κ := Rat) [] n key := by
  rw [conditions_visit]
  exact List.forall_mem_cons.2 ⟨⟨"k", rfl, by decide, by decide, nofun⟩,
    List.forall_mem_singleton.2 ⟨"d", rfl, by decide, by decide, nofun⟩⟩

/-- What is said of the door and the key. -/
def view (d k : Truth) : Facts := .ofList [("d", d), ("k", k)]

theorem seen_visit (b : Blackboard) : visit.seen b = view (b.truth "d") (b.truth "k") := by
  have hsort : Name.sort visit.conditions = [.text "d", .text "k"] := by
    rw [conditions_visit]
    cbv
  rw [Domain.seen, hsort]
  rfl

set_option maxRecDepth 100000 in
/-- No search for a way through the door is cut short. -/
theorem cut_find_visit (d k : Truth) : (find ⟨10, true⟩ (view d k) visit.actions opened).cut = false := by
  rw [← Bool.not_eq_true, cut_find_iff, search_find, not_not]
  cases d <;> cases k <;> cbv

set_option maxRecDepth 100000 in
theorem search_visit : (find ⟨10, true⟩ (view .no .no) visit.actions opened).search.readOff 4 =
    (some (.ofFacts (view .yes .yes), 2, [fetch, unlock]), true) := by
  rw [search_find]
  cbv

end Door

open Door in
/-- The way through a closed door costs two if actions work, whichever plans are followed. -/
theorem Agent.run_progress_door :
    ∃ q, (worker.run (.start [] ⟨(.empty, ()), #[]⟩) = (.ok .terminated, q) ∧ (10 : Int) ≤ q.history.length) ∨
      (worker.run (.start [] ⟨(.empty, ()), #[]⟩) = (.ok .completed, q) ∧ ∃ as : List (Action Rat),
        (∀ b ∈ as, b ∈ visit.actions) ∧ q.history = as.map Action.name ∧ Cost.sum (as.map Action.cost) = 2) := by
  have hplan : plan? ⟨10, true⟩ (visit.seen Blackboard.empty) visit.actions opened =
      some ⟨[fetch, unlock], opened, view .no .no⟩ := by
    rw [seen_visit]
    exact plan?_of_readOff search_visit (by decide)
  have hworks : ∀ b ∈ visit.actions, SetsFlags carryOut b :=
    List.forall_mem_cons.2 ⟨setsFlags_carryOut (c := "k") rfl, List.forall_mem_cons.2
      ⟨setsFlags_carryOut (c := "d") rfl, List.forall_mem_singleton.2 (setsFlags_carryOut (c := "d") rfl)⟩⟩
  have hdef : ∀ b ∈ visit.actions, ∀ n, b.eff.get? n ≠ some .unknown := by
    have heff (c : Name) (n : Name) : (Facts.uniform [c] .yes).get? n ≠ some .unknown := by
      show ((∅ : Facts).set c .yes).get? n ≠ some .unknown
      rw [Table.get?_set]
      split <;> simp [Table.get?_empty]
    exact List.forall_mem_cons.2 ⟨heff "k", List.forall_mem_cons.2 ⟨heff "d", List.forall_mem_singleton.2 (heff "d")⟩⟩
  -- the first tick has the plan for two
  have hplans : worker.PlansBy ⟨10, true⟩ visit opened :=
    plansBy_overBlackboard rfl isFlag_visit "w" 10 ⟨10, true⟩ none carryOut
  obtain ⟨x, t, hok, -, hcourse⟩ := hplans [] ⟨(.empty, ()), #[]⟩
  rw [show World.empty.blackboard = Blackboard.empty from rfl, hplan] at hcourse
  obtain ⟨first, rfl, hfirst⟩ := Option.map_eq_some_iff.1 hcourse
  have hactions : first.actions = [fetch, unlock] := congrArg Prod.snd hfirst
  have hcost : first.cost = 2 := by
    rw [Plan.cost, hactions]
    norm_num [fetch, unlock]
  have hcut (n : Nat) (start : Facts) (h : (worker.after n (.start [] ⟨(.empty, ()), #[]⟩)).PlansFrom
      (.ofDomain visit [] none) worker start) : (find ⟨10, true⟩ start visit.actions opened).cut = false := by
    obtain ⟨-, -, t, hstart⟩ := h
    obtain ⟨u, -, hu⟩ := (Domain.fixed_seen isFlag_visit none _ _).state
      ⟨(worker.after n (.start [] ⟨(.empty, ()), #[]⟩)).session.world.1, _⟩ rfl
    rw [hstart] at hu
    cases hu
    rw [seen_visit]
    exact cut_find_visit _ _
  obtain ⟨q, hq⟩ := (run_progress rfl isFlag_visit hdef hworks rfl ⟨(.empty, ()), #[]⟩ hcut
    (lastPlan_tick_iff.2 ⟨by decide, t, hok⟩)).2
  rw [hcost] at hq
  exact ⟨q, hq⟩

end GoalPlanner
