import GoalPlanner.Agent.Setup
import GoalPlanner.Proofs.Agent.Life
import GoalPlanner.Proofs.Plan.Mirror
import GoalPlanner.Proofs.Plan.Prune
import GoalPlanner.Proofs.World
import Mathlib

/-!
# Verdicts at the end of a run

Where a resolver answers alike as long as nothing else happens to its world (`Resolver.Consistent`), every plan of a tick
is made from one state, with the answer filled in for the condition that was asked for, if any (`Settled`). So the last
tick of a run (`Agent.LastTick`) is right about that state: a run that is completed has reached a goal there, and a run
that is stuck can reach none from there (`Agent.end_justified`).

Over a blackboard, answers are alike as long as the blackboard and its kinds are (`Agent.plansOver_overBlackboard`).
-/

namespace GoalPlanner

variable {σ τ κ : Type} [Cost κ]

/-! ## Answers filled in -/

namespace Facts

variable {s t : Facts}

/-- The state with answers filled in for some conditions. -/
def fill (s : Facts) (cs : List Name) (answer : Name → Truth) : Facts := cs.foldl (fun t c => t.set c (answer c)) s

theorem get?_set_congr (h : ∀ n, s.get? n = t.get? n) (c : Name) (v : Truth) (n : Name) :
    (s.set c v).get? n = (t.set c v).get? n := by
  rw [Table.get?_set, Table.get?_set, h]

end Facts

/-! ## What a goal was planned by -/

/-- What planning to a goal came to, and what was asked for on the way, where all states say what one of them does and
answers do not change: nothing was open; the condition left open did not matter; or it was asked for. -/
inductive Settled (o : Options) (actions : List (Action κ)) (start : Facts) (answer : Name → Truth) (g : Goal κ) :
    List Name → Option (Plan κ) → Prop
  | known {x : Facts} (hx : ∀ n, x.get? n = start.get? n) (hu : x.unknowns = []) :
    Settled o actions start answer g [] (plan? o x actions g)
  | agreed {x : Facts} {c : Name} (hx : ∀ n, x.get? n = start.get? n) (hu : x.unknowns = [c])
    (ha : Agree o x c actions g) : Settled o actions start answer g [] (plan? o x actions g)
  | asked {x : Facts} {c : Name} (hx : ∀ n, x.get? n = start.get? n) (hu : x.unknowns = [c]) :
    Settled o actions start answer g [c] (plan? o (x.set c (answer c)) actions g)

namespace Settled

variable {o : Options} {actions as : List (Action Rat)} {start : Facts} {answer : Name → Truth} {g : Goal Rat}
  {cs : List Name} {y : Option (Plan Rat)} {p : Plan Rat} {c : Name}

theorem exists_state (h : Settled o actions start answer g cs y) :
    ∃ x, (∀ n, x.get? n = (start.fill cs answer).get? n) ∧ y = plan? o x actions g := by
  cases h with
  | known hx | agreed hx => exact ⟨_, hx, rfl⟩
  | asked hx => exact ⟨_, Facts.get?_set_congr hx _ _, rfl⟩

/-- A plan with nothing to do is for a goal that is reached. -/
theorem reached (h : Settled o actions start answer g cs (some p)) (hp : p.actions = []) :
    p.goal = g ∧ g.reached (start.fill cs answer) = true := by
  obtain ⟨x, hx, hplan⟩ := h.exists_state
  have hach := (achieves_of_plan? hplan.symm).1
  rw [hp, achieves_of_get?_eq hx] at hach
  exact ⟨goal_of_plan? hplan.symm, hach⟩

variable (hcut : ∀ v ∈ start :: start.unknowns.flatMap start.variants, (find o v actions g).cut = false)
include hcut

theorem cut_fill (h : Settled o actions start answer g cs y) :
    (find o (start.fill cs answer) actions g).cut = false := by
  cases h with
  | known | agreed => exact hcut _ List.mem_cons_self
  | @asked x c hx hu =>
    have hc : start.get? c = some .unknown := by
      rw [← hx, ← Facts.mem_unknowns, hu]
      exact List.mem_singleton_self c
    by_cases ha : answer c = .unknown
    · refine (cut_find_of_get?_eq (fun n => ?_) o actions g).trans (hcut start List.mem_cons_self)
      show (start.set c (answer c)).get? n = start.get? n
      rw [ha, Table.set_eq_self hc]
    · exact hcut _ (List.mem_cons_of_mem _ (List.mem_flatMap.2
        ⟨c, Facts.mem_unknowns.2 hc, Facts.mem_variants_of_ne_unknown ha⟩))

/-- Where there is no plan and no search was cut short, the goal is out of reach. -/
theorem not_achieves (h : Settled o actions start answer g cs none) (has : ∀ a ∈ as, a ∈ actions) :
    achieves (start.fill cs answer) as g = false := by
  obtain ⟨x, hx, hplan⟩ := h.exists_state
  rw [← achieves_of_get?_eq hx]
  exact not_achieves_of_plan?_eq_none ((cut_find_of_get?_eq hx o actions g).trans (h.cut_fill hcut)) hplan.symm has

/-- It is out of reach from both variants if a condition was left open. -/
theorem not_achieves_variant (h : Settled o actions start answer g cs none) (hc : start.get? c = some .unknown)
    (hcs : c ∉ cs) {v : Facts} (hv : v ∈ start.variants c) (has : ∀ a ∈ as, a ∈ actions) :
    achieves v as g = false := by
  generalize hy : none = y at h
  cases h with
  | known hx hu =>
    rw [← hx, ← Facts.mem_unknowns, hu] at hc
    cases hc
  | asked hx hu =>
    rw [← hx, ← Facts.mem_unknowns, hu] at hc
    exact absurd hc hcs
  | @agreed x c' hx hu ha =>
    have hc' := hc
    rw [← hx, ← Facts.mem_unknowns, hu, List.mem_singleton] at hc'
    subst hc'
    obtain ⟨t, ht, rfl⟩ : ∃ t, t ≠ .unknown ∧ v = start.set c t := by
      rcases List.mem_pair.1 hv with rfl | rfl
      · exact ⟨.yes, nofun, rfl⟩
      · exact ⟨.no, nofun, rfl⟩
    have hsame := Facts.get?_set_congr hx c t
    have hv := hcut _ (List.mem_cons_of_mem _ (List.mem_flatMap.2 ⟨c, Facts.mem_unknowns.2 hc, hv⟩))
    rw [← achieves_of_get?_eq hsame]
    exact not_achieves_of_agree ha hy.symm (List.mem_cons_of_mem _ (Facts.mem_variants_of_ne_unknown ht))
      ((cut_find_of_get?_eq hsame o actions g).trans hv) has

end Settled

/-! ## Resolvers whose answers do not change -/

/-- From any world of some kind, a resolver supplies a state that says the same, and gives the same answers for the
conditions that it leaves open, if it does not fail; and it leaves a world of that kind. -/
structure Resolver.Consistent (r : Resolver σ) (kind : σ → Prop) (start : Facts) (answer : Name → Truth) : Prop where
  state : ∀ (s t : Session σ) (x : Facts), kind s.world → r.state.outcome s = (.ok x, t) →
    kind t.world ∧ ∀ n, x.get? n = start.get? n
  ask : ∀ (s t : Session σ) (c : Name) (v : Truth), kind s.world → start.get? c = some .unknown →
    (r.ask c).outcome s = (.ok v, t) → kind t.world ∧ v = answer c

theorem Resolver.Fixed.consistent {r : Resolver σ} {kind : σ → Prop} {start : Facts} {answer : Name → Truth}
    (h : r.Fixed kind start answer) : r.Consistent kind start answer where
  state s t x hs hx := by
    obtain ⟨u, hu, hok⟩ := h.state s hs
    cases hx.symm.trans hok
    exact ⟨hu, fun _ => rfl⟩
  ask s t c v hs hc hv := by
    obtain ⟨u, hu, hok⟩ := h.ask s c hs hc
    cases hv.symm.trans hok
    exact ⟨hu, rfl⟩

/-- What is asked for when plans are made to some goals in turn, goal by goal. -/
def askedInTurn (r : Resolver σ) (o : Options) (actions : List (Action κ)) :
    List (Goal κ) → Session σ → List (Goal κ × List Name)
  | [], _ => []
  | g :: gs, s =>
    (g, asked r o actions g s) :: askedInTurn r o actions gs ((planToGoal r o actions g).outcome s).2

/-- What is asked for when plans are made to the goals of a domain, goal by goal. -/
def askedForGoals (r : Resolver σ) (o : Options) (d : Domain κ) (s : Session σ) : List (Goal κ × List Name) :=
  askedInTurn r o d.actions (Goal.byName d.goals) s

section

variable {r : Resolver σ} {kind : σ → Prop} {start : Facts} {answer : Name → Truth} {o : Options}
  {actions : List (Action κ)} {g : Goal κ} {gs : List (Goal κ)} {s t : Session σ}

theorem map_fst_askedInTurn : (askedInTurn r o actions gs s).map Prod.fst = gs := by
  induction gs generalizing s with
  | nil => rfl
  | cons g gs ih => rw [askedInTurn, List.map_cons, ih]

theorem exists_mem_askedForGoals {d : Domain κ} (hg : g ∈ d.goals) : ∃ cs, (g, cs) ∈ askedForGoals r o d s := by
  have hg : g ∈ (askedForGoals r o d s).map Prod.fst := by rwa [askedForGoals, map_fst_askedInTurn, Goal.mem_byName]
  obtain ⟨⟨_, cs⟩, he, rfl⟩ := List.mem_map.1 hg
  exact ⟨cs, he⟩

namespace Resolver.Consistent

theorem settled (h : r.Consistent kind start answer) (hs : kind s.world) {y : Option (Plan κ)}
    (hy : (planToGoal r o actions g).outcome s = (.ok y, t)) :
    kind t.world ∧ Settled o actions start answer g (asked r o actions g s) y := by
  obtain ⟨x, u, hx, -⟩ := Effect.outcome_bind_eq_ok_iff.1 hy
  obtain ⟨hu, hsame⟩ := h.state s u x hs hx
  rw [outcome_planToGoal hx] at hy
  rw [asked_eq hx]
  -- the verdict goes by how many conditions are open, and by whether the one matters
  match hun : x.unknowns with
  | [] =>
    rw [verdict_of_known hun] at hy ⊢
    cases hy
    exact ⟨hu, .known hsame hun⟩
  | [c] =>
    by_cases ha : Agree o x c actions g
    · rw [verdict_of_agree hun ha] at hy ⊢
      cases hy
      exact ⟨hu, .agreed hsame hun ha⟩
    · rw [verdict_of_differ hun ha] at hy ⊢
      obtain ⟨v, w, hv, hy⟩ := Effect.outcome_bind_eq_ok_iff.1 hy
      have hc : start.get? c = some .unknown := by
        rw [← hsame, ← Facts.mem_unknowns, hun]
        exact List.mem_singleton_self c
      obtain ⟨hw, rfl⟩ := h.ask _ w c v (by exact hu) hc hv
      obtain ⟨⟨⟩, w', hw', hy⟩ := Effect.outcome_bind_eq_ok_iff.1 hy
      cases hw'
      cases hy
      exact ⟨hw, .asked hsame hun⟩
  | c :: d :: cs =>
    rw [verdict_of_several (by simp [hun])] at hy
    cases hy

/-- Each plan made in turn is what planning to one of the goals came to; and where there are none, none of the goals
came to one. -/
theorem settled_inTurn (h : r.Consistent kind start answer) (hs : kind s.world) {ps : List (Plan κ)}
    (hps : (plansInTurn r o actions gs).outcome s = (.ok ps, t)) :
    (∀ p ∈ ps, ∃ e ∈ askedInTurn r o actions gs s, Settled o actions start answer e.1 e.2 (some p)) ∧
      (ps = [] → ∀ e ∈ askedInTurn r o actions gs s, Settled o actions start answer e.1 e.2 none) := by
  induction gs generalizing s ps t with
  | nil =>
    cases hps
    exact ⟨List.forall_mem_nil _, fun _ => List.forall_mem_nil _⟩
  | cons g gs ih =>
    obtain ⟨y, u, hy, hps⟩ := Effect.outcome_bind_eq_ok_iff.1 hps
    obtain ⟨qs, w, hqs, hps⟩ := Effect.outcome_bind_eq_ok_iff.1 hps
    cases hps
    obtain ⟨hu, hsettled⟩ := h.settled hs hy
    obtain ⟨hplans, hnone⟩ := ih hu hqs
    rw [askedInTurn, hy]
    constructor
    · intro p hp
      rcases List.mem_append.1 hp with hp | hp
      · rw [Option.mem_toList] at hp
        cases hp
        exact ⟨_, List.mem_cons_self, hsettled⟩
      · obtain ⟨e, he, hp⟩ := hplans p hp
        exact ⟨e, List.mem_cons_of_mem _ he, hp⟩
    · intro hnil
      obtain ⟨hy, hqs⟩ := List.append_eq_nil_iff.1 hnil
      rw [Option.toList_eq_nil_iff] at hy
      subst hy
      exact List.forall_mem_cons.2 ⟨hsettled, hnone hqs⟩

/-- The best plan is what planning to its goal came to; and where there is none, no goal came to a plan. -/
theorem settled_best (h : r.Consistent kind start answer) (hs : kind s.world) {d : Domain κ} {x : Option (Plan κ)}
    (hx : (bestPlan r o d).outcome s = (.ok x, t)) :
    (∀ p, x = some p → ∃ e ∈ askedForGoals r o d s, Settled o d.actions start answer e.1 e.2 (some p)) ∧
      (x = none → ∀ e ∈ askedForGoals r o d s, Settled o d.actions start answer e.1 e.2 none) := by
  obtain ⟨_, u, hrank, hx⟩ := Effect.outcome_bind_eq_ok_iff.1 hx
  cases hx
  obtain ⟨ps, w, hps, hrank⟩ := Effect.outcome_bind_eq_ok_iff.1 hrank
  cases hrank
  obtain ⟨hplans, hnone⟩ := h.settled_inTurn hs hps
  exact ⟨fun p hp => hplans p (mem_rank.1 (List.mem_of_head? hp)), fun hp => hnone (head?_rank_eq_none_iff.1 hp)⟩

end Resolver.Consistent

end

/-! ## Over a blackboard -/

/-- The resolver in a world beside which something else stands. -/
def Resolver.beside (r : Resolver σ) : Resolver (σ × τ) := ⟨r.state.beside, fun c => (r.ask c).beside⟩

theorem Resolver.Consistent.beside {r : Resolver σ} {kind : σ → Prop} {start : Facts} {answer : Name → Truth}
    (h : r.Consistent kind start answer) :
    (r.beside : Resolver (σ × τ)).Consistent (fun w => kind w.1) start answer where
  state s t x hs hx := by
    rcases hr : r.state.outcome ⟨s.world.1, s.log⟩ with ⟨y, u⟩
    cases hx.symm.trans (Effect.outcome_beside hr)
    exact h.state ⟨s.world.1, s.log⟩ u x hs hr
  ask s t c v hs hc hv := by
    rcases hr : (r.ask c).outcome ⟨s.world.1, s.log⟩ with ⟨y, u⟩
    cases hv.symm.trans (Effect.outcome_beside hr)
    exact h.ask ⟨s.world.1, s.log⟩ u c v hs hc hr

section

variable (r : Resolver σ) (o : Options)

theorem planToGoal_beside (actions : List (Action κ)) (g : Goal κ) :
    planToGoal (r.beside : Resolver (σ × τ)) o actions g = (planToGoal r o actions g).beside := by
  rw [planToGoal, planToGoal, Effect.beside_bind]
  refine congrArg _ (funext fun start => ?_)
  dsimp only
  rw [Effect.beside_bind]
  refine congrArg _ (funext fun _ => ?_)
  cases (deliberate o start actions g).verdict with
  | settled | unsupported => rfl
  | ask c =>
    dsimp only
    rw [Effect.beside_bind]
    rfl

theorem plansInTurn_beside (actions : List (Action κ)) (gs : List (Goal κ)) :
    plansInTurn (r.beside : Resolver (σ × τ)) o actions gs = (plansInTurn r o actions gs).beside := by
  induction gs with
  | nil => rfl
  | cons g gs ih =>
    rw [plansInTurn, plansInTurn, planToGoal_beside, ih, Effect.beside_bind]
    refine congrArg _ (funext fun _ => ?_)
    rw [Effect.beside_bind]
    rfl

/-- What stands beside a world does not matter to planning. -/
theorem bestPlan_beside (d : Domain κ) :
    bestPlan (r.beside : Resolver (σ × τ)) o d = (bestPlan r o d).beside := by
  rw [bestPlan, bestPlan, plansToGoals, plansToGoals, plansInTurn_beside, Effect.beside_bind, Effect.beside_bind]
  rfl

end

/-- In worlds that are alike, conditions are read alike. -/
theorem Resolution.exists_consistent (r : Resolution κ) (history : List String) (w : World) :
    ∃ start answer, (r.resolver history).Consistent (fun v => v.Alike w) start answer := by
  -- what is read of a condition, where it can be read
  let truth (early : Bool) (n : Name) : Truth := (r.read history w early n.shown).result.toOption.getD .unknown
  have hread {u : World} (hu : u.Alike w) {early : Bool} {n : Name} {v : Truth}
      (hv : (r.read history u early n.shown).result = .ok v) : v = truth early n := by
    rw [result_read_congr hu] at hv
    show v = (r.read history w early n.shown).result.toOption.getD .unknown
    rw [hv]
    rfl
  refine ⟨.ofNames r.known (truth true), truth false, fun s t x hs hx => ?_, fun s t c v hs _ hv => ?_⟩
  · obtain ⟨xs, u, hall, -⟩ := Effect.outcome_bind_eq_ok_iff.1 hx
    obtain ⟨u, hu, hlike⟩ := outcome_state (r := r) (s := s) (f := truth true) fun n hn => by
      obtain ⟨v, hv⟩ := exists_result_of_determineAll hall n hn
      rw [hv, hread hs hv]
    cases hx.symm.trans hu
    exact ⟨hlike.trans hs, fun _ => rfl⟩
  · replace hv : (r.determine history false c).outcome s = (.ok v, t) := hv
    rw [outcome_determine, Prod.mk.injEq] at hv
    obtain ⟨hv, rfl⟩ := hv
    exact ⟨alike_after_read.trans hs, hread hs hv⟩

/-! ## Ends of runs -/

namespace Agent

section

variable {a : Agent κ σ} {first p q : Run κ σ}

/-- An agent looks for the best plan over the resolvers that its history leads to. -/
def PlansOver (a : Agent κ σ) (r : List String → Resolver σ) (o : Options) : Prop :=
  ∀ history s, (a.planner history).outcome s = (bestPlan (r history) o a.domain).outcome s

/-- Over a blackboard, an agent plans over resolvers whose answers do not change unless the blackboard does. -/
theorem plansOver_overBlackboard (id : String) (d : Domain κ) (maxActions : Int) (o : Options) (r : Resolution κ)
    (execute : Action κ → Effect (World × τ) Unit) :
    (overBlackboard id d maxActions o r execute).PlansOver (fun history => (r.resolver history).beside) o ∧
      ∀ history (w : World), ∃ start answer,
        ((r.resolver history).beside : Resolver (World × τ)).Consistent (fun v => v.1.Alike w) start answer := by
  refine ⟨fun history s => ?_, fun history w => ?_⟩
  · rw [bestPlan_beside]
    rfl
  · obtain ⟨start, answer, h⟩ := r.exists_consistent history w
    exact ⟨start, answer, h.beside⟩

/-- The last tick of a run leads from a run that goes on, whatever happened to its world before, to one that has ended,
whatever happened to its world since. -/
structure LastTick (a : Agent κ σ) (first p q : Run κ σ) : Prop where
  reaches : ∃ s, a.Reaches first { p with session := s }
  running : p.status = .running
  leads : { (a.tick p).2 with session := q.session } = q

theorem Reaches.exists_lastTick (h : a.Reaches first q) (hfirst : first.status = .running)
    (hq : q.status ≠ .running) : ∃ p, a.LastTick first p q := by
  induction h with
  | refl => exact absurd hfirst hq
  | @tick q h s ih =>
    by_cases hrunning : q.status = .running
    · exact ⟨{ q with session := s }, ⟨q.session, h⟩, hrunning, rfl⟩
    · obtain ⟨p, hreaches, hp, hleads⟩ := ih hrunning
      have hend : { q with session := s }.status.isTerminal = true := by
        simpa [Status.isTerminal] using hrunning
      refine ⟨p, hreaches, hp, ?_⟩
      rw [tick_of_isTerminal hend, ← hleads]

/-- Where there is no plan, the run gets stuck. -/
theorem status_tick_of_none (hp : p.status = .running) (hroom : p.history.length < a.maxActions) {s : Session σ}
    (hplan : (a.planner p.history).outcome p.session = (.ok none, s)) : (a.tick p).2.status = .stuck := by
  rw [tick, if_neg (by simp [hp, Status.isTerminal]), if_neg (not_le.2 hroom), hplan]
  rfl

theorem Turn.exists_of_completed {x : Except Failure Status} (h : a.Turn p x q) (hp : p.status = .running)
    (hq : q.status = .completed) :
    ∃ plan s, (a.planner p.history).outcome p.session = (.ok (some plan), s) ∧ plan.actions = [] ∧
      q.lastPlan = some plan := by
  cases h with
  | complete _ _ h hactions => exact ⟨_, _, h, hactions, rfl⟩
  | spent | stuck | failed => cases hq
  | ended | raised | acted => cases hp.symm.trans hq

theorem Turn.exists_of_stuck {x : Except Failure Status} (h : a.Turn p x q) (hp : p.status = .running)
    (hq : q.status = .stuck) : ∃ s, (a.planner p.history).outcome p.session = (.ok none, s) := by
  cases h with
  | stuck _ _ h => exact ⟨_, h⟩
  | spent | complete | failed => cases hq
  | ended | raised | acted => cases hp.symm.trans hq

end

/-- The verdict at the end of a run is justified. Let no search of the last tick be cut short, and let the resolver
answer alike within that tick; the state it supplies, with the answer filled in for the condition that was asked for to
plan for a goal, is what the goal is judged by. If the run is completed, the goal of its last plan is reached in that
state. If it is stuck, no sequence of actions reaches any of the goals from the state that the goal is judged by, nor,
if a condition was left open, from the state with either truth value for it. -/
theorem end_justified {a : Agent Rat σ} {r : List String → Resolver σ} {o : Options} (hplans : a.PlansOver r o)
    (initial : List String) (s : Session σ) {q : Run Rat σ} (h : a.Reaches (.start initial s) q)
    (hend : q.status = .completed ∨ q.status = .stuck) :
    (∃ p, a.LastTick (.start initial s) p q) ∧
    ∀ p, a.LastTick (.start initial s) p q → ∀ kind start answer, (r p.history).Consistent kind start answer →
      kind p.session.world →
      (∀ g ∈ a.domain.goals, ∀ v ∈ start :: start.unknowns.flatMap start.variants,
        (find o v a.domain.actions g).cut = false) →
      (q.status = .completed → ∃ plan cs, q.lastPlan = some plan ∧
        (plan.goal, cs) ∈ askedForGoals (r p.history) o a.domain p.session ∧
        plan.goal.reached (start.fill cs answer) = true) ∧
      (q.status = .stuck → ∀ g ∈ a.domain.goals,
        (∃ cs, (g, cs) ∈ askedForGoals (r p.history) o a.domain p.session) ∧
        ∀ cs, (g, cs) ∈ askedForGoals (r p.history) o a.domain p.session →
          ∀ as : List (Action Rat), (∀ b ∈ as, b ∈ a.domain.actions) →
            achieves (start.fill cs answer) as g = false ∧
            ∀ c, start.get? c = some .unknown → c ∉ cs → ∀ v ∈ [start.set c .yes, start.set c .no],
              achieves v as g = false) := by
  refine ⟨h.exists_lastTick rfl fun hq => by simp [hq] at hend, ?_⟩
  rintro p ⟨-, hp, hleads⟩ kind start answer hr hkind hcut
  have hstatus : q.status = (a.tick p).2.status := by rw [← hleads]
  have hlast : q.lastPlan = (a.tick p).2.lastPlan := by rw [← hleads]
  rw [hstatus, hlast]
  refine ⟨fun hq => ?_, fun hq g hg => ?_⟩
  · obtain ⟨plan, t, hplan, hactions, hkept⟩ := (a.turn_tick p).exists_of_completed hp hq
    rw [hplans] at hplan
    obtain ⟨⟨g, cs⟩, he, hsettled⟩ := (hr.settled_best hkind hplan).1 plan rfl
    obtain ⟨rfl, hreached⟩ := hsettled.reached hactions
    exact ⟨plan, cs, hkept, he, hreached⟩
  · obtain ⟨t, hplan⟩ := (a.turn_tick p).exists_of_stuck hp hq
    rw [hplans] at hplan
    have hnone := (hr.settled_best hkind hplan).2 rfl
    refine ⟨exists_mem_askedForGoals hg, fun cs he as has => ?_⟩
    refine ⟨(hnone _ he).not_achieves (hcut _ hg) has, fun c hc hcs v hv => ?_⟩
    exact (hnone _ he).not_achieves_variant (hcut _ hg) hc hcs hv has

end Agent

namespace Door

/-- An agent at the door that can ask for the key, and is told that there is none. -/
def asker : Agent Rat Unit where
  id := "a"
  domain := domain
  maxActions := 5
  planner _ := bestPlan ⟨return Facts.uniform ["k"] .unknown, fun _ => return .no⟩ ⟨10, true⟩ domain
  execute _ := return

theorem unknowns_uniform : (Facts.uniform ["k"] .unknown).unknowns = ["k"] :=
  Facts.unknowns_eq_singleton fun _ => open_iff

/-- Without the key, the agent gets stuck at once. -/
theorem status_asker : (asker.tick (.start [] ⟨(), #[]⟩)).2.status = .stuck := by
  obtain ⟨ps, t, hps, -, hfollow⟩ := (Resolver.fixed_return (Facts.uniform ["k"] .unknown) .no).outcome_plansToGoals
    (by simp [unknowns_uniform]) ⟨10, true⟩ domain (s := ⟨(), #[]⟩) trivial
  have hnone : ps = [] := by
    have hanswered : (Facts.uniform ["k"] .unknown).answered (fun _ => .no) = Facts.uniform ["k"] .no :=
      Facts.answered_of_open unknowns_uniform _
    have hplan : plan? ⟨10, true⟩ (Facts.uniform ["k"] .no) domain.actions opened = none :=
      plan?_keyless (by decide) (by decide)
    rw [Follow, hanswered, show domain.goals = [opened] from rfl, Goal.byName, List.mergeSort_singleton,
      List.filterMap_cons, hplan] at hfollow
    exact List.map_eq_nil_iff.1 hfollow
  have hplanner : (asker.planner []).outcome ⟨(), #[]⟩ = (.ok none, t) := by
    show (bestPlan _ _ _).outcome _ = _
    rw [bestPlan, Effect.outcome_bind_of_ok hps, hnone, rank_of_length_le_one (by simp)]
    rfl
  exact Agent.status_tick_of_none rfl (by decide) hplanner

end Door

open Door in
/-- Whoever is told that there is no key cannot open the door. -/
theorem Agent.end_justified_door :
    ∃ q, asker.Reaches (.start [] ⟨(), #[]⟩) q ∧ q.status = .stuck ∧
      ∃ cs, ∀ as : List (Action Rat), (∀ b ∈ as, b ∈ [unlock]) →
        achieves ((Facts.uniform ["k"] .unknown).fill cs fun _ => .no) as opened = false := by
  have hreach : asker.Reaches (.start [] ⟨(), #[]⟩) (asker.tick (.start [] ⟨(), #[]⟩)).2 := .tick .refl ⟨(), #[]⟩
  obtain ⟨-, hjustified⟩ := end_justified (a := asker) (fun _ _ => rfl) [] ⟨(), #[]⟩ hreach (.inr status_asker)
  have hcut : ∀ g ∈ asker.domain.goals, ∀ v ∈ Facts.uniform ["k"] .unknown ::
      (Facts.uniform ["k"] .unknown).unknowns.flatMap (Facts.uniform ["k"] .unknown).variants,
      (find ⟨10, true⟩ v asker.domain.actions g).cut = false := by
    rw [unknowns_uniform]
    refine List.forall_mem_singleton.2 (List.forall_mem_cons.2 ⟨cut_find_key .unknown, ?_⟩)
    exact List.forall_mem_cons.2 ⟨cut_find_key .yes, List.forall_mem_singleton.2 (cut_find_key .no)⟩
  obtain ⟨-, hstuck⟩ := hjustified (.start [] ⟨(), #[]⟩) ⟨⟨⟨(), #[]⟩, .refl⟩, rfl, rfl⟩ (fun _ => True)
    (Facts.uniform ["k"] .unknown) (fun _ => .no) (Resolver.fixed_return _ _).consistent trivial hcut
  obtain ⟨⟨cs, he⟩, hcs⟩ := hstuck status_asker opened (List.mem_singleton_self _)
  exact ⟨_, hreach, status_asker, cs, fun as has => (hcs cs he as has).1⟩

end GoalPlanner
