import GoalPlanner.Agent.Setup
import GoalPlanner.Proofs.Agent.Life
import GoalPlanner.Proofs.Deferral
import GoalPlanner.Proofs.Flags
import GoalPlanner.Proofs.Plan.Prune
import Mathlib

/-!
# What has run

An agent can list the actions that it carries out without a failure beside its world (`Agent.traced`), which changes
nothing else (`Agent.tick_traced`). `Agent.carriedOut` is that list for one tick, and `Agent.Carries` collects it
along a run: the history has the names of just these actions (`Agent.Carries.history`). Over a blackboard, the condition
that an action has run is read off the history, so it tells the truth (`Agent.hasRun_iff_carries`).

There is one exception. A colon is looked for before anything else in the name of a condition, so an action with a colon
in its name can be carried out without the condition ever coming to hold (`Agent.hasRun_misread`).
-/

namespace GoalPlanner

variable {κ σ : Type} [Cost κ] {a : Agent κ σ} {p q : Run κ σ} {done : List (Action κ)}

/-! ## Carrying out -/

/-- The run in a world that also lists some actions. -/
def Run.beside (p : Run κ σ) (done : List (Action κ)) : Run κ (σ × List (Action κ)) :=
  ⟨p.status, p.history, p.lastPlan, p.notices, ⟨(p.session.world, done), p.session.log⟩⟩

namespace Agent

/-- The agent in a world that also lists the actions that were carried out without a failure, oldest first. -/
def traced (a : Agent κ σ) : Agent κ (σ × List (Action κ)) where
  id := a.id
  domain := a.domain
  maxActions := a.maxActions
  planner history := (a.planner history).beside
  execute action := do
    (a.execute action).beside
    Effect.change fun v => (v.1, v.2 ++ [action])

@[simp] theorem domain_traced (a : Agent κ σ) : a.traced.domain = a.domain := rfl

@[simp] theorem maxActions_traced (a : Agent κ σ) : a.traced.maxActions = a.maxActions := rfl

@[simp] theorem record_traced (a : Agent κ σ) (what : String) : a.traced.record what = a.record what := rfl

section

variable {s t : Session σ} {action : Action κ}

theorem outcome_planner_traced {history : List String} {x : Except Failure (Option (Plan κ))}
    (h : (a.planner history).outcome s = (x, t)) (done : List (Action κ)) :
    (a.traced.planner history).outcome ⟨(s.world, done), s.log⟩ = (x, ⟨(t.world, done), t.log⟩) :=
  Effect.outcome_beside h

theorem outcome_execute_traced_ok (h : (a.execute action).outcome s = (.ok (), t)) (done : List (Action κ)) :
    (a.traced.execute action).outcome ⟨(s.world, done), s.log⟩ = (.ok (), ⟨(t.world, done ++ [action]), t.log⟩) :=
  Effect.outcome_bind_of_ok (Effect.outcome_beside h) _

theorem outcome_execute_traced_error {f : Failure} (h : (a.execute action).outcome s = (.error f, t))
    (done : List (Action κ)) :
    (a.traced.execute action).outcome ⟨(s.world, done), s.log⟩ = (.error f, ⟨(t.world, done), t.log⟩) :=
  Effect.outcome_bind_of_error (Effect.outcome_beside h) _

end

/-- Listing the actions carried out changes nothing else when a plan is followed, and the history grows by the names of
those that are listed. -/
theorem exists_act_traced (a : Agent κ σ) (p : Run κ σ) (plan : Plan κ) :
    ∃ as : List (Action κ),
      (∀ done, a.traced.act (p.beside done) plan = ((a.act p plan).1, (a.act p plan).2.beside (done ++ as))) ∧
      (a.act p plan).2.history = p.history ++ as.map Action.name := by
  cases hplan : plan.actions with
  | nil =>
    refine ⟨[], fun done => ?_, ?_⟩
    · simp only [act, hplan, List.append_nil]
      rfl
    · simp only [act, hplan, List.map_nil, List.append_nil]
      rfl
  | cons action rest =>
    rcases hexec : (a.execute action).outcome (p.log (a.record s!"executing {action.name}")).session with ⟨f | ⟨⟩, s⟩
    · refine ⟨[], fun done => ?_, ?_⟩
      · have htraced : (a.traced.execute action).outcome
            ((p.beside done).log (a.traced.record s!"executing {action.name}")).session = _ :=
          outcome_execute_traced_error hexec done
        simp only [act, hplan, hexec, htraced, List.append_nil]
        rfl
      · simp only [act, hplan, hexec, List.map_nil, List.append_nil]
        rfl
    · refine ⟨[action], fun done => ?_, ?_⟩
      · have htraced : (a.traced.execute action).outcome
            ((p.beside done).log (a.traced.record s!"executing {action.name}")).session = _ :=
          outcome_execute_traced_ok hexec done
        simp only [act, hplan, hexec, htraced]
        rfl
      · simp only [act, hplan, hexec]
        rfl

theorem exists_tick_traced (a : Agent κ σ) (p : Run κ σ) :
    ∃ as : List (Action κ), (∀ done, a.traced.tick (p.beside done) = ((a.tick p).1, (a.tick p).2.beside (done ++ as))) ∧
      (a.tick p).2.history = p.history ++ as.map Action.name := by
  by_cases hend : p.status.isTerminal = true
  · exact ⟨[], by simp [tick, hend, Run.beside]⟩
  by_cases hfull : a.maxActions ≤ p.history.length
  · exact ⟨[], by simp [tick, hend, hfull, Run.beside, Run.finish, Run.tell, Run.log]⟩
  rcases hplanner : (a.planner p.history).outcome p.session with ⟨f | _ | plan, s⟩
  · exact ⟨[], by simp [tick, hend, hfull, hplanner, outcome_planner_traced hplanner, Run.beside]⟩
  · exact ⟨[], by
      simp [tick, hend, hfull, hplanner, outcome_planner_traced hplanner, Run.beside, Run.finish, Run.tell, Run.log]⟩
  · obtain ⟨as, htraced, hhistory⟩ :=
      a.exists_act_traced ({ p with session := s, lastPlan := some plan }.tell (.planned plan)) plan
    refine ⟨as, fun done => ?_, ?_⟩
    · simp only [tick, Run.beside, maxActions_traced, if_neg hend, if_neg hfull, hplanner,
        outcome_planner_traced hplanner]
      exact htraced done
    · rw [tick, if_neg hend, if_neg hfull, hplanner]
      exact hhistory

/-- The actions that the next tick carries out without a failure. -/
def carriedOut (a : Agent κ σ) (p : Run κ σ) : List (Action κ) := (a.traced.tick (p.beside [])).2.session.world.2

/-- Listing the actions carried out changes nothing else in a tick, and the history grows by their names. -/
theorem tick_traced (a : Agent κ σ) (p : Run κ σ) :
    (∀ done, a.traced.tick (p.beside done) = ((a.tick p).1, (a.tick p).2.beside (done ++ a.carriedOut p))) ∧
      (a.tick p).2.history = p.history ++ (a.carriedOut p).map Action.name := by
  obtain ⟨as, htraced, hhistory⟩ := a.exists_tick_traced p
  have has : a.carriedOut p = as := by
    rw [carriedOut, htraced []]
    rfl
  rw [has]
  exact ⟨htraced, hhistory⟩

/-- The runs that an agent comes to from a run as in `Reaches`, with the actions carried out on the way without a
failure, oldest first. -/
inductive Carries (a : Agent κ σ) (p : Run κ σ) : List (Action κ) → Run κ σ → Prop
  | refl : Carries a p [] p
  | tick {done : List (Action κ)} {q : Run κ σ} (h : Carries a p done q) (s : Session σ) :
    Carries a p (done ++ a.carriedOut { q with session := s }) (a.tick { q with session := s }).2

theorem Reaches.exists_carries (h : a.Reaches p q) : ∃ done, a.Carries p done q := by
  induction h with
  | refl => exact ⟨[], .refl⟩
  | tick _ s ih =>
    obtain ⟨done, h⟩ := ih
    exact ⟨_, h.tick s⟩

theorem Carries.reaches (h : a.Carries p done q) : a.Reaches p q := by
  induction h with
  | refl => exact .refl
  | tick _ s ih => exact ih.tick s

/-- The history lists the actions carried out by name. -/
theorem Carries.history (h : a.Carries p done q) : q.history = p.history ++ done.map Action.name := by
  induction h with
  | refl => rw [List.map_nil, List.append_nil]
  | tick _ s ih =>
    rw [(a.tick_traced _).2, ih, List.map_append, List.append_assoc]

/-- Where there is a plan whose first action does not fail, the action is carried out. -/
theorem tick_of_head? (hp : p.status = .running) (hroom : p.history.length < a.maxActions) {plan : Plan κ}
    {action : Action κ} {s : Session σ} {w : σ} (hplan : (a.planner p.history).outcome p.session = (.ok (some plan), s))
    (hhead : plan.actions.head? = some action)
    (hexec : ∀ l, ∃ l', (a.execute action).outcome ⟨s.world, l⟩ = (.ok (), ⟨w, l'⟩)) :
    (a.tick p).2.status = .running ∧ (a.tick p).2.history = p.history ++ [action.name] ∧
      (a.tick p).2.session.world = w := by
  rcases hx : a.tick p with ⟨x, r⟩
  cases turn_of_tick_eq hx with
  | ended hend =>
    rw [hp] at hend
    cases hend
  | spent _ hfull => exact absurd hfull (not_le.2 hroom)
  | raised _ _ h | stuck _ _ h => cases hplan.symm.trans h
  | complete _ _ h hactions =>
    cases hplan.symm.trans h
    rw [hactions] at hhead
    cases hhead
  | failed _ _ h hactions l hfailed =>
    cases hplan.symm.trans h
    rw [hactions] at hhead
    cases hhead
    obtain ⟨l', hok⟩ := hexec l
    cases hok.symm.trans hfailed
  | acted _ _ h hactions l hok t ht =>
    cases hplan.symm.trans h
    rw [hactions] at hhead
    cases hhead
    obtain ⟨l', hok'⟩ := hexec l
    cases hok'.symm.trans hok
    exact ⟨hp, rfl, ht⟩

end Agent

/-! ## Reading that an action has run -/

namespace Resolution

variable {r : Resolution κ} {history : List String} {w : World} {early : Bool} {name key : String}

theorem result_read_hasRun (h : ':' ∉ name.toList) :
    (r.read history w early (hasRun name)).result = .ok (if name ∈ history then .yes else .no) := by
  rw [read, Query.ofName_hasRun _ h]
  show Except.ok (Truth.ofBool (history.contains name)) = _
  by_cases hname : name ∈ history <;> simp [hname, Truth.ofBool, Truth.ofOption]

/-- A condition with a colon in its name is read alike whatever has been carried out. -/
theorem read_of_colon (h : ':' ∈ key.toList) (history' : List String) :
    r.read history w early key = r.read history' w early key := by
  obtain ⟨var, kind, hq⟩ := Query.exists_ofName_eq_ofBinding r.conditions h
  rw [read, read, hq, Query.ofBinding]
  split
  · rfl
  · split <;> rfl

theorem outcome_ask_of_colon {n : Name} (h : ':' ∈ n.shown.toList) (history' : List String) (s : Session World) :
    ((r.resolver history).ask n).outcome s = ((r.resolver history').ask n).outcome s := by
  show (r.determine history false n).outcome s = (r.determine history' false n).outcome s
  rw [outcome_determine, outcome_determine, read_of_colon h history']

/-- After some actions, a condition has one truth value in all worlds: whenever it is asked for, and in every state that
is supplied if it is known. -/
structure Says (r : Resolution κ) (history : List String) (n : Name) (t : Truth) : Prop where
  asked : ∀ s : Session World, (((r.resolver history).ask n).outcome s).1 = .ok t
  stated : n ∈ r.known → ∀ (s u : Session World) (x : Facts), (r.resolver history).state.outcome s = (.ok x, u) →
    x.get? n = some t

theorem says_of_result_read (hd : r.known.Nodup) {n : Name} {t : Truth}
    (h : ∀ w early, (r.read history w early n.shown).result = .ok t) : r.Says history n t where
  asked s := by
    show ((r.determine history false n).outcome s).1 = .ok t
    rw [outcome_determine, h]
  stated hn s u x hx := by
    obtain ⟨v, hv, hget⟩ := result_read_of_state hd hx hn
    cases (h _ _).symm.trans hv
    exact hget

end Resolution

namespace Agent

variable {τ : Type}

/-- Over a blackboard, planning leaves the state of the tools as it is. -/
theorem outcome_planner_overBlackboard {id : String} {d : Domain κ} {maxActions : Int} {o : Options} {r : Resolution κ}
    {execute : Action κ → Effect (World × τ) Unit} {history : List String} {s : Session (World × τ)}
    {x : Except Failure (Option (Plan κ))} {t : Session World}
    (h : (bestPlan (r.resolver history) o d).outcome ⟨s.world.1, s.log⟩ = (x, t)) :
    ((overBlackboard id d maxActions o r execute).planner history).outcome s = (x, ⟨(t.world, s.world.2), t.log⟩) :=
  Effect.outcome_beside h

/-- The condition that an action has run tells the truth. Let an agent that plans over a blackboard carry out some
actions without a failure, whatever its tools do and whatever happens to the world between ticks. If there is no colon
in a name, the condition that an action of that name has run holds if it is the name of one of these actions, and does
not hold otherwise: whenever it is asked for, and in the states that are planned from if it is known; there is such a
state if the conditions with evaluators can be evaluated. If there is a colon in the name, the condition asks for a
binding, and the answer is the same whatever was carried out. -/
theorem hasRun_iff_carries (id : String) (d : Domain κ) (maxActions : Int) (o : Options)
    (conditions : List (Condition κ)) (deferAbove : Option κ) (execute : Action κ → Effect (World × τ) Unit)
    (s : Session (World × τ)) {q : Run κ (World × τ)}
    (h : (overBlackboard id d maxActions o (.ofDomain d conditions deferAbove) execute).Reaches (.start [] s) q) :
    (∃ done, (overBlackboard id d maxActions o (.ofDomain d conditions deferAbove) execute).Carries (.start [] s)
      done q) ∧
    (∀ done, (overBlackboard id d maxActions o (.ofDomain d conditions deferAbove) execute).Carries (.start [] s)
      done q → ∀ name : String, ':' ∉ name.toList →
        (Resolution.ofDomain d conditions deferAbove).Says q.history (hasRun name)
          (if name ∈ done.map Action.name then .yes else .no)) ∧
    (∀ t : Session World, (∀ c ∈ conditions, ∃ v, (c.evaluate ⟨t.world.blackboard, q.history⟩).result = .ok v) →
      ∃ x u, ((Resolution.ofDomain d conditions deferAbove).resolver q.history).state.outcome t = (.ok x, u)) ∧
    ∀ name : String, ':' ∈ name.toList → ∀ (history : List String) (t : Session World),
      (((Resolution.ofDomain d conditions deferAbove).resolver q.history).ask (hasRun name)).outcome t =
        (((Resolution.ofDomain d conditions deferAbove).resolver history).ask (hasRun name)).outcome t := by
  have hd : (Resolution.ofDomain d conditions deferAbove).known.Nodup := Name.nodup_sort d.nodup_conditions
  refine ⟨h.exists_carries, fun done hdone name hname => ?_, fun t hconditions => ?_, fun name hname history t => ?_⟩
  · have hhistory : q.history = done.map Action.name := hdone.history
    rw [← hhistory]
    exact Resolution.says_of_result_read hd fun w early => Resolution.result_read_hasRun hname
  · choose f hf using fun n : Name => Resolution.exists_result_read
      (r := .ofDomain d conditions deferAbove) hconditions true n.shown
    obtain ⟨u, hu, -⟩ := Resolution.outcome_state (r := .ofDomain d conditions deferAbove) fun n _ => hf n
    exact ⟨_, u, hu⟩
  · exact Resolution.outcome_ask_of_colon (n := .text (hasRun name)) (Query.colon_mem_hasRun_iff.2 hname) history t

end Agent

/-! ## A job to be done once -/

namespace Job

/-! A job of some name brings about that it has run, and the goal requires just that. -/

def job (name : String) (named : name ≠ "") : Action Rat :=
  ⟨name, ∅, Facts.uniform [hasRun name] .yes, 0, 0, named, lt_irrefl 0⟩

def did (name : String) : Goal Rat := ⟨"done", Facts.uniform [hasRun name] .yes, 0, "", by decide⟩

def domain (name : String) (named : name ≠ "") : Domain Rat := ⟨[job name named], [did name], by simp, by simp⟩

def resolution (name : String) (named : name ≠ "") : Resolution Rat := .ofDomain (domain name named) [] none

def worker (name : String) (named : name ≠ "") : Agent Rat (World × Unit) :=
  .overBlackboard "w" (domain name named) 3 ⟨10, true⟩ (resolution name named) fun _ => return

/-- What is said of the job. -/
def view (name : String) (t : Truth) : Facts := Facts.uniform [hasRun name] t

variable {name : String} {named : name ≠ ""}

theorem get?_view {n : Name} {t u : Truth} : (view name t).get? n = some u ↔ n = hasRun name ∧ t = u := by
  rw [view, show Facts.uniform [.text (hasRun name)] t = Facts.ofNames [.text (hasRun name)] fun _ => t from rfl,
    Facts.get?_ofNames (List.nodup_singleton _), List.mem_singleton]

theorem unknowns_view : (view name .no).unknowns = [] :=
  Facts.unknowns_eq_nil fun n h => by cases (get?_view.1 h).2

/-- As long as the job has not been done, there is a plan that begins with it. -/
theorem exists_plan (name : String) (named : name ≠ "") :
    ∃ plan, plan? ⟨10, true⟩ (view name .no) [job name named] (did name) = some plan ∧
      plan.actions.head? = some (job name named) := by
  have hreached {s : Facts} : (did name).reached s = true ↔ s.get? (hasRun name) = some .yes := by
    rw [Goal.reached, Facts.meets_iff]
    refine ⟨fun h => h _ _ (get?_view.2 ⟨rfl, rfl⟩), fun h n t hn => ?_⟩
    obtain ⟨rfl, rfl⟩ := get?_view.1 hn
    exact h
  refine ⟨_, plan?_of_one_action (by decide) ?_ rfl (hreached.2 ?_) (lt_irrefl 0) (lt_irrefl _) rfl, rfl⟩
  · rw [← Bool.not_eq_true, hreached, get?_view]
    simp
  · have heff : (job name named).eff.get? (hasRun name) = some .yes := get?_view.2 ⟨rfl, rfl⟩
    rw [Action.apply, Table.get?_merge, heff]
    rfl

theorem known_eq : (resolution name named).known = [.text (hasRun name)] := by
  have hconditions : (domain name named).conditions = [.text (hasRun name)] := by
    simp [domain, Domain.conditions, Domain.required, Domain.affected, job, did, Facts.uniform, Table.ofList,
      Table.setAll, Table.set, Table.put, Table.keys, List.eraseDups_cons]
  rw [resolution, Resolution.ofDomain, hconditions]
  exact List.mergeSort_singleton _

theorem outcome_state {history : List String} {s : Session World}
    (hread : ((resolution name named).read history s.world true (hasRun name)).result = .ok .no) :
    ∃ t, ((resolution name named).resolver history).state.outcome s = (.ok (view name .no), t) ∧
      t.world.Alike s.world := by
  have hall : ∀ n ∈ (resolution name named).known,
      ((resolution name named).read history s.world true n.shown).result = .ok .no := by
    rw [known_eq]
    exact List.forall_mem_singleton.2 hread
  obtain ⟨t, ht, hlike⟩ := Resolution.outcome_state hall
  rw [known_eq] at ht
  exact ⟨t, ht, hlike⟩

/-- Where the job is read not to have been done, it is done in the first tick. -/
theorem exists_carries (named : name ≠ "") (hread : ∀ w : World, w.blackboard = .empty →
      ((resolution name named).read [] w true (hasRun name)).result = .ok .no) :
    ∃ done q, (worker name named).Carries (.start [] ⟨(.empty, ()), #[]⟩) done q ∧ done.map Action.name = [name] ∧
      q.status = .running ∧ q.session.world.1.blackboard = .empty := by
  have hfixed : ((resolution name named).resolver []).Fixed (fun w => w.blackboard = .empty) (view name .no)
      fun _ => .no := by
    refine ⟨fun s hs => ?_, fun _ n _ hn => ?_⟩
    · obtain ⟨t, ht, hlike⟩ := outcome_state (hread s.world hs)
      exact ⟨t, hlike.blackboard.trans hs, ht⟩
    · cases (get?_view.1 hn).2
  obtain ⟨plan, hplan, hhead⟩ := exists_plan name named
  obtain ⟨ps, t, hps, ht, hfollow⟩ := hfixed.outcome_plansToGoals (by simp [unknowns_view]) ⟨10, true⟩
    (domain name named) (s := ⟨.empty, #[]⟩) rfl
  have hcourses : ps.map Plan.course = [plan.course] := by
    rw [hfollow, Facts.answered_of_known unknowns_view]
    simp [domain, Goal.byName, hplan]
  obtain ⟨p, rfl, hp⟩ := List.map_eq_singleton_iff.1 hcourses
  have hactions : p.actions = plan.actions := congrArg Prod.snd hp
  have hbest : (bestPlan ((resolution name named).resolver []) ⟨10, true⟩ (domain name named)).outcome
      ⟨.empty, #[]⟩ = (.ok (some p), t) := by
    rw [bestPlan, Effect.outcome_bind_of_ok hps, rank_of_length_le_one (by simp)]
    rfl
  obtain ⟨hstatus, hhistory, hworld⟩ := Agent.tick_of_head? (a := worker name named)
    (p := .start [] ⟨(.empty, ()), #[]⟩) (w := (t.world, ())) rfl (show (0 : Int) < 3 by decide)
    (Agent.outcome_planner_overBlackboard hbest) (hactions ▸ hhead) fun l => ⟨l, rfl⟩
  have hcarries : (worker name named).Carries (.start [] ⟨(.empty, ()), #[]⟩) _ _ := .tick .refl ⟨(.empty, ()), #[]⟩
  exact ⟨_, _, hcarries, hcarries.history.symm.trans hhistory, hstatus,
    (congrArg (fun w => w.1.blackboard) hworld).trans ht⟩

/-- A name with a colon asks for a value of a kind, and there is none on an empty blackboard. -/
theorem result_read_colon {w : World} (hw : w.blackboard = .empty) (history : List String) (early : Bool) :
    ((resolution "db:backup" (by decide)).read history w early (hasRun "db:backup")).result = .ok .no := by
  have hq : Query.ofName (κ := Rat) [] (hasRun "db:backup") = .binding "hasRun_db" "backup" := by
    cbv
  show (Resolution.answer _ _ _ _ _ (Query.ofName [] (hasRun "db:backup"))).result = _
  rw [hq, Resolution.answer, hw]
  cbv

end Job

open Job in
/-- Once the job has been done, the condition that it has run holds. -/
theorem Agent.hasRun_iff_carries_job :
    ∃ done q, (worker "backup" (by decide)).Carries (.start [] ⟨(.empty, ()), #[]⟩) done q ∧
      done.map Action.name = ["backup"] ∧ (resolution "backup" (by decide)).Says q.history (hasRun "backup") .yes := by
  obtain ⟨done, q, hdone, hnames, -⟩ := Job.exists_carries (by decide : "backup" ≠ "") fun w _ =>
    Resolution.result_read_hasRun (by decide)
  obtain ⟨-, hsays, -⟩ := hasRun_iff_carries "w" (Job.domain "backup" (by decide)) 3 ⟨10, true⟩ [] none
    (fun _ => return) ⟨(.empty, ()), #[]⟩ hdone.reaches
  have h := hsays done hdone "backup" (by decide)
  rw [hnames] at h
  exact ⟨done, q, hdone, hnames, h⟩

open Job in
/-- A job with a colon in its name has been done, and yet the condition that it has run does not hold. -/
theorem Agent.hasRun_misread :
    ∃ done q, (worker "db:backup" (by decide)).Carries (.start [] ⟨(.empty, ()), #[]⟩) done q ∧
      done.map Action.name = ["db:backup"] ∧ q.status = .running ∧
      ((((resolution "db:backup" (by decide)).resolver q.history).ask (hasRun "db:backup")).outcome
        ⟨q.session.world.1, q.session.log⟩).1 = .ok .no ∧
      ∃ x u, ((resolution "db:backup" (by decide)).resolver q.history).state.outcome
        ⟨q.session.world.1, q.session.log⟩ = (.ok x, u) ∧ x.get? (hasRun "db:backup") = some .no := by
  obtain ⟨done, q, hdone, hnames, hstatus, hempty⟩ := Job.exists_carries (by decide : "db:backup" ≠ "") fun w hw =>
    result_read_colon hw [] true
  obtain ⟨u, hu, -⟩ := Job.outcome_state (s := ⟨q.session.world.1, q.session.log⟩)
    (result_read_colon hempty q.history true)
  refine ⟨done, q, hdone, hnames, hstatus, ?_, _, u, hu, get?_view.2 ⟨rfl, rfl⟩⟩
  show (((resolution "db:backup" (by decide)).determine q.history false (hasRun "db:backup")).outcome _).1 = _
  rw [Resolution.outcome_determine]
  exact result_read_colon hempty q.history false

end GoalPlanner
