import GoalPlanner.Agent
import GoalPlanner.Proofs.Effect
import GoalPlanner.Proofs.Plan.Find
import Mathlib

/-!
# The life of a run

What one tick can do is said once (`Agent.Turn`, `Agent.turn_tick`). From it follows by induction, for any planner and
whatever happens to the world between ticks (`Agent.Reaches`), that a run gives an account of itself: it tells of each
action that was carried out after the plan that begins with it, then of its end, and then nothing more (`Run.Account`,
`Run.account_of_reaches`).

Running is ticking until an end or a failure (`Agent.run_eq`): a tick that leaves the run going takes up room for an
action, so the number of ticks that is allowed never matters (`Agent.runFor_eq_run`). If the planner never fails, a run
comes to its end (`Agent.run_ends`).
-/

namespace GoalPlanner

variable {κ σ : Type} [Cost κ] {a : Agent κ σ} {p q : Run κ σ}

theorem Status.eq_running_of_not_isTerminal {s : Status} (h : ¬s.isTerminal = true) : s = .running := by
  simpa [Status.isTerminal] using h

/-! ## Ticks -/

namespace Agent

/-- What a tick can do: what it results in and the run after it. -/
inductive Turn (a : Agent κ σ) (p : Run κ σ) : Except Failure Status → Run κ σ → Prop
  /-- Nothing happens after the end. -/
  | ended (h : p.status.isTerminal = true) : Turn a p (.ok p.status) p
  /-- There is no room for another action. -/
  | spent (hp : p.status = .running) (h : a.maxActions ≤ p.history.length) (s : Session σ) :
    Turn a p (.ok .terminated)
      ⟨.terminated, p.history, p.lastPlan, p.notices ++ [.finished .terminated p.history], s⟩
  /-- The planner fails. -/
  | raised {f : Failure} {s : Session σ} (hp : p.status = .running) (hroom : p.history.length < a.maxActions)
    (h : (a.planner p.history).outcome p.session = (.error f, s)) : Turn a p (.error f) { p with session := s }
  /-- There is no plan. -/
  | stuck {s : Session σ} (hp : p.status = .running) (hroom : p.history.length < a.maxActions)
    (h : (a.planner p.history).outcome p.session = (.ok none, s)) (t : Session σ) :
    Turn a p (.ok .stuck) ⟨.stuck, p.history, none,
      p.notices ++ [.noPlan ((Goal.byName a.domain.goals).map Goal.name)] ++ [.finished .stuck p.history], t⟩
  /-- The plan has nothing left to do. -/
  | complete {plan : Plan κ} {s : Session σ} (hp : p.status = .running) (hroom : p.history.length < a.maxActions)
    (h : (a.planner p.history).outcome p.session = (.ok (some plan), s)) (hplan : plan.actions = []) (t : Session σ) :
    Turn a p (.ok .completed)
      ⟨.completed, p.history, some plan, p.notices ++ [.planned plan] ++ [.finished .completed p.history], t⟩
  /-- The first action of the plan fails. -/
  | failed {plan : Plan κ} {action : Action κ} {rest : List (Action κ)} {s u : Session σ} {f : Failure}
    (hp : p.status = .running) (hroom : p.history.length < a.maxActions)
    (h : (a.planner p.history).outcome p.session = (.ok (some plan), s)) (hplan : plan.actions = action :: rest)
    (l : Array Log.Record) (hexec : (a.execute action).outcome ⟨s.world, l⟩ = (.error f, u)) (t : Session σ) :
    Turn a p (.error f) ⟨.failed, p.history, some plan,
      p.notices ++ [.planned plan] ++ [.actionFailed action.name f] ++ [.finished .failed p.history], t⟩
  /-- The first action of the plan is carried out. -/
  | acted {plan : Plan κ} {action : Action κ} {rest : List (Action κ)} {s u : Session σ}
    (hp : p.status = .running) (hroom : p.history.length < a.maxActions)
    (h : (a.planner p.history).outcome p.session = (.ok (some plan), s)) (hplan : plan.actions = action :: rest)
    (l : Array Log.Record) (hexec : (a.execute action).outcome ⟨s.world, l⟩ = (.ok (), u))
    (t : Session σ) (ht : t.world = u.world) :
    Turn a p (.ok .running) ⟨p.status, p.history ++ [action.name], some plan,
      p.notices ++ [.planned plan] ++ [.executed action.name], t⟩

/-- Every tick does one of these things. -/
theorem turn_tick (a : Agent κ σ) (p : Run κ σ) : a.Turn p (a.tick p).1 (a.tick p).2 := by
  unfold tick
  split
  · exact .ended ‹_›
  rename_i hterminal
  have hp := Status.eq_running_of_not_isTerminal hterminal
  split
  · exact .spent hp ‹_› _
  rename_i hfull
  have hroom : p.history.length < a.maxActions := not_le.1 hfull
  split
  · exact .raised hp hroom ‹_›
  · exact .stuck hp hroom ‹_› _
  · rename_i plan s hplanner
    unfold act
    split
    · exact .complete hp hroom hplanner ‹_› _
    · rename_i action rest hplan
      dsimp only
      split
      · exact .failed hp hroom hplanner hplan _ ‹_› _
      · rename_i u hexec
        exact .acted (u := u) hp hroom hplanner hplan _ hexec _ rfl

theorem turn_of_tick_eq {x : Except Failure Status} (h : a.tick p = (x, q)) : a.Turn p x q := by
  have ht := a.turn_tick p
  rwa [h] at ht

theorem tick_of_isTerminal (h : p.status.isTerminal = true) : a.tick p = (.ok p.status, p) := by
  rw [tick, if_pos h]

/-- The runs that an agent comes to from a run by ticks, whatever happens to the world and the log before each tick. -/
inductive Reaches (a : Agent κ σ) (p : Run κ σ) : Run κ σ → Prop
  | refl : Reaches a p p
  | tick {q : Run κ σ} (h : Reaches a p q) (s : Session σ) : Reaches a p (a.tick { q with session := s }).2

/-- After the end, only the world and the log change. -/
theorem Reaches.same (h : a.Reaches p q) (hp : p.status.isTerminal = true) : { q with session := p.session } = p := by
  induction h with
  | refl => rfl
  | @tick q _ s ih =>
    have hstatus : q.status = p.status := by
      rw [← ih]
    have hq : { q with session := s }.status.isTerminal = true := hstatus ▸ hp
    rw [tick_of_isTerminal hq]
    exact ih

end Agent

/-! ## Accounts -/

/-- What is told of actions that were carried out: each after the plan that begins with it. -/
def Notice.ofDone (done : List (Plan κ × Action κ)) : List (Notice κ) :=
  done.flatMap fun d => [.planned d.1, .executed d.2.name]

namespace Run

/-- What is told last of a run with a status and a history: nothing as long as it goes on, and else how it ended. -/
inductive Ending : Status → List String → List (Notice κ) → Prop
  | running (history : List String) : Ending .running history []
  | completed {plan : Plan κ} (h : plan.actions = []) (history : List String) :
    Ending .completed history [.planned plan, .finished .completed history]
  | stuck (goals history : List String) : Ending .stuck history [.noPlan goals, .finished .stuck history]
  | failed {plan : Plan κ} {action : Action κ} (h : plan.actions.head? = some action) (f : Failure)
    (history : List String) :
    Ending .failed history [.planned plan, .actionFailed action.name f, .finished .failed history]
  | terminated (history : List String) : Ending .terminated history [.finished .terminated history]

/-- The account that a run gives of itself: which actions were carried out since the initial ones, each by a plan that
begins with it, and what was told last. -/
structure Account (initial : List String) (q : Run κ σ) (done : List (Plan κ × Action κ)) (last : List (Notice κ)) :
    Prop where
  history : q.history = initial ++ done.map fun d => d.2.name
  notices : q.notices = Notice.ofDone done ++ last
  first : ∀ d ∈ done, d.1.actions.head? = some d.2
  ending : Ending q.status q.history last

variable {initial : List String} {done : List (Plan κ × Action κ)} {last : List (Notice κ)}

theorem account_start (initial : List String) (s : Session σ) : (start (κ := κ) initial s).Account initial [] [] :=
  ⟨(List.append_nil _).symm, rfl, List.forall_mem_nil _, .running _⟩

namespace Account

theorem last_eq_nil (h : p.Account initial done last) (hp : p.status = .running) : last = [] := by
  have hending := h.ending
  rw [hp] at hending
  cases hending
  rfl

/-- The account at the end of a run. -/
theorem close (h : p.Account initial done last) (hp : p.status = .running) {status : Status} {ending : List (Notice κ)}
    (hending : Ending status p.history ending) (plan : Option (Plan κ)) (s : Session σ) :
    Account initial ⟨status, p.history, plan, p.notices ++ ending, s⟩ done ending := by
  refine ⟨h.history, ?_, h.first, hending⟩
  rw [h.notices, h.last_eq_nil hp, List.append_nil]

/-- The account after an action. -/
theorem act (h : p.Account initial done last) (hp : p.status = .running) {plan : Plan κ} {action : Action κ}
    (hplan : plan.actions.head? = some action) (plan' : Option (Plan κ)) (s : Session σ) :
    Account initial ⟨p.status, p.history ++ [action.name], plan',
      p.notices ++ [.planned plan] ++ [.executed action.name], s⟩ (done ++ [(plan, action)]) [] := by
  refine ⟨?_, ?_, ?_, ?_⟩
  · simp [h.history]
  · simp [h.notices, h.last_eq_nil hp, Notice.ofDone]
  · rw [List.forall_mem_append]
    exact ⟨h.first, List.forall_mem_singleton.2 hplan⟩
  · rw [hp]
    exact .running _

/-- A run still gives an account of itself after a tick. -/
theorem exists_of_turn (h : p.Account initial done last) {x : Except Failure Status} (ht : a.Turn p x q) :
    ∃ done last, q.Account initial done last := by
  cases ht with
  | ended => exact ⟨done, last, h⟩
  | spent hp => exact ⟨done, _, h.close hp (.terminated _) _ _⟩
  | raised => exact ⟨done, last, h.history, h.notices, h.first, h.ending⟩
  | stuck hp =>
    rw [List.append_assoc]
    exact ⟨done, _, h.close hp (.stuck _ _) _ _⟩
  | complete hp _ _ hplan =>
    rw [List.append_assoc]
    exact ⟨done, _, h.close hp (.completed hplan _) _ _⟩
  | failed hp _ _ hplan =>
    rw [List.append_assoc, List.append_assoc]
    exact ⟨done, _, h.close hp (.failed (by rw [hplan, List.head?_cons]) _ _) _ _⟩
  | acted hp _ _ hplan => exact ⟨_, _, h.act hp (by rw [hplan, List.head?_cons]) _ _⟩

/-- The end of a run is told exactly once it has come, with the status and the history of the run. -/
theorem finished_mem_iff (h : p.Account initial done last) {status : Status} {history : List String} :
    .finished status history ∈ p.notices ↔
      p.status.isTerminal = true ∧ status = p.status ∧ history = p.history := by
  have hending := h.ending
  rw [h.notices, Notice.ofDone, List.mem_append]
  generalize p.status = s at hending
  generalize p.history = hist at hending
  cases hending <;> simp [Status.isTerminal]

end Account

/-- Whatever an agent reaches from the start gives an account of itself. -/
theorem account_of_reaches {s : Session σ} (h : a.Reaches (.start initial s) q) :
    ∃ done last, q.Account initial done last := by
  induction h with
  | refl => exact ⟨[], [], account_start initial s⟩
  | @tick q _ t ih =>
    obtain ⟨done, last, h⟩ := ih
    have ht : Account initial { q with session := t } done last := ⟨h.history, h.notices, h.first, h.ending⟩
    exact ht.exists_of_turn (a.turn_tick _)

end Run

/-! ## Running -/

namespace Agent

/-- The run after some ticks in a row. -/
def after (a : Agent κ σ) (n : Nat) (p : Run κ σ) : Run κ σ := (fun q => (a.tick q).2)^[n] p

theorem after_succ (n : Nat) (p : Run κ σ) : a.after (n + 1) p = (a.tick (a.after n p)).2 :=
  Function.iterate_succ_apply' _ n p

theorem reaches_after (n : Nat) (p : Run κ σ) : a.Reaches p (a.after n p) := by
  induction n with
  | zero => exact .refl
  | succ n ih =>
    rw [after_succ]
    exact ih.tick (a.after n p).session

/-- A tick that goes well ends the run or takes up room. -/
theorem Turn.progress {s : Status} (h : a.Turn p (.ok s) q) :
    q.status.isTerminal = true ∨ a.room q + 1 = a.room p := by
  cases h with
  | ended h => exact .inl h
  | spent | stuck | complete => exact .inl rfl
  | acted _ hroom =>
    right
    simp only [room, List.length_append, List.length_singleton]
    omega

theorem runFor_of_isTerminal (h : p.status.isTerminal = true) (n : Nat) : a.runFor n p = (.ok p.status, p) := by
  cases n with
  | zero => rfl
  | succ n => rw [runFor, if_pos h]

theorem runFor_congr {m n : Nat} (hm : a.room p < m) (hn : a.room p < n) : a.runFor m p = a.runFor n p := by
  induction m generalizing n p with
  | zero => exact absurd hm (Nat.not_lt_zero _)
  | succ m ih =>
    obtain ⟨n, rfl⟩ := Nat.exists_eq_add_one_of_ne_zero (Nat.ne_zero_of_lt hn)
    rw [runFor, runFor]
    split
    · rfl
    rcases hx : a.tick p with ⟨f | s, q⟩
    · rfl
    · rcases (turn_of_tick_eq hx).progress with hq | hroom
      · exact (runFor_of_isTerminal hq m).trans (runFor_of_isTerminal hq n).symm
      · exact ih (by omega) (by omega)

/-- It does not matter how many ticks are allowed, if it is more than there is room for actions. -/
theorem runFor_eq_run {n : Nat} (h : a.room p < n) : a.runFor n p = a.run p := runFor_congr h (Nat.lt_succ_self _)

/-- Running is ticking until an end or a failure. -/
theorem run_eq (a : Agent κ σ) (p : Run κ σ) :
    a.run p =
      if p.status.isTerminal then (.ok p.status, p)
      else match a.tick p with
        | (.error f, q) => (.error f, q)
        | (.ok _, q) => a.run q := by
  rw [← runFor_eq_run (Nat.lt_succ_of_lt (Nat.lt_succ_self _)), runFor]
  split
  · rfl
  rcases hx : a.tick p with ⟨f | s, q⟩
  · rfl
  · rcases (turn_of_tick_eq hx).progress with hq | hroom
    · exact (runFor_of_isTerminal hq _).trans (runFor_of_isTerminal hq _).symm
    · exact runFor_eq_run (by omega)

/-- A run is made of ticks, no more of them than are allowed. -/
theorem exists_runFor_eq_after (n : Nat) (p : Run κ σ) : ∃ m ≤ n, (a.runFor n p).2 = a.after m p := by
  induction n generalizing p with
  | zero => exact ⟨0, le_refl 0, rfl⟩
  | succ n ih =>
    rw [runFor]
    split
    · exact ⟨0, Nat.zero_le _, rfl⟩
    rcases hx : a.tick p with ⟨f | s, q⟩
    · exact ⟨1, Nat.le_add_left 1 n, (congrArg Prod.snd hx).symm⟩
    · obtain ⟨m, hm, hq⟩ := ih q
      refine ⟨m + 1, Nat.succ_le_succ hm, hq.trans ?_⟩
      show a.after m q = a.after m (a.tick p).2
      rw [hx]

theorem exists_run_eq_after (p : Run κ σ) : ∃ n ≤ a.room p + 1, (a.run p).2 = a.after n p :=
  exists_runFor_eq_after _ p

/-- If the planner never fails, a run comes to its end: with its status, or with the failure of an action. -/
theorem run_ends (h : ∀ history s, ∃ plan t, (a.planner history).outcome s = (.ok plan, t)) (p : Run κ σ) :
    (a.run p).2.status.isTerminal = true ∧
      ((a.run p).1 = .ok (a.run p).2.status ∨
        ∃ f n, (a.run p).1 = .error f ∧ (a.run p).2.status = .failed ∧ .actionFailed n f ∈ (a.run p).2.notices) := by
  induction hn : a.room p using Nat.strong_induction_on generalizing p with
  | _ n ih =>
    subst hn
    rw [run_eq]
    split
    · exact ⟨‹_›, .inl rfl⟩
    rcases hx : a.tick p with ⟨f | s, q⟩
    · cases turn_of_tick_eq hx with
      | raised _ _ hplanner =>
        obtain ⟨plan, t, hok⟩ := h p.history p.session
        rw [hplanner] at hok
        cases hok
      | failed => exact ⟨rfl, .inr ⟨f, _, rfl, rfl, List.mem_append_left _ (List.mem_append_right _ (.head _))⟩⟩
    · dsimp only
      rcases (turn_of_tick_eq hx).progress with hq | hroom
      · have hrun : a.run q = (.ok q.status, q) := runFor_of_isTerminal hq _
        rw [hrun]
        exact ⟨hq, .inl rfl⟩
      · exact ih (a.room q) (by omega) q rfl

/-- The life of a run. For any planner and any tools, initial history and number of actions allowed, whatever happens to
the world between ticks:

* the run has told of actions carried out, each after the plan that begins with it, and then of its end at most, in one
  of four ways; its history is the initial one followed by these actions;
* the end has been told exactly once the status is final, with that status and the history; from then on nothing is
  told, and status, history and last plan stay;
* a tick in which the planner fails changes nothing but the world and the log;
* if the planner never fails, running the agent comes to an end after one tick more than there was room for actions at
  most, by returning the final status or by the failure of an action. -/
theorem life_cycle (a : Agent κ σ) (initial : List String) (s : Session σ) (h : a.Reaches (.start initial s) q) :
    (∃ done last, q.Account initial done last) ∧
    (∀ status history, .finished status history ∈ q.notices ↔
      q.status.isTerminal = true ∧ status = q.status ∧ history = q.history) ∧
    (q.status.isTerminal = true → ∀ r, a.Reaches q r → { r with session := q.session } = q) ∧
    (q.status = .running → q.history.length < a.maxActions →
      ∀ f t, (a.planner q.history).outcome q.session = (.error f, t) →
        a.tick q = (.error f, { q with session := t })) ∧
    ((∀ history t, ∃ plan u, (a.planner history).outcome t = (.ok plan, u)) →
      (∃ n ≤ a.room q + 1, (a.run q).2 = a.after n q) ∧ (∀ n, a.room q < n → a.runFor n q = a.run q) ∧
      (a.run q).2.status.isTerminal = true ∧
      ((a.run q).1 = .ok (a.run q).2.status ∨ ∃ f n, (a.run q).1 = .error f ∧ (a.run q).2.status = .failed ∧
        .actionFailed n f ∈ (a.run q).2.notices)) := by
  obtain ⟨done, last, haccount⟩ := Run.account_of_reaches h
  refine ⟨⟨done, last, haccount⟩, fun status history => haccount.finished_mem_iff, fun hq r hr => hr.same hq,
    fun hq hroom f t hf => ?_, fun hnever => ?_⟩
  · rw [tick, if_neg (by simp [hq, Status.isTerminal]), if_neg (not_le.2 hroom), hf]
  · exact ⟨exists_run_eq_after q, fun n hn => runFor_eq_run hn, run_ends hnever q⟩

end Agent

namespace Door

/-- An agent that goes on with fetching the key and unlocking the door, and never fails. -/
def visitor : Agent Rat Unit where
  id := "v"
  domain := domain
  maxActions := 5
  planner history := return some ⟨[fetch, unlock].drop history.length, opened, ∅⟩
  execute _ := return

end Door

open Door in
/-- A visit to the door comes to its end, and the end is told. -/
theorem Agent.life_cycle_door :
    ∃ status history, .finished status history ∈ (visitor.run (.start [] ⟨(), #[]⟩)).2.notices := by
  obtain ⟨⟨n, -, hn⟩, -, hend, -⟩ :=
    (visitor.life_cycle [] ⟨(), #[]⟩ .refl).2.2.2.2 fun history t => ⟨_, t, rfl⟩
  have hreach : visitor.Reaches (.start [] ⟨(), #[]⟩) (visitor.run (.start [] ⟨(), #[]⟩)).2 := by
    rw [hn]
    exact reaches_after n _
  exact ⟨_, _, ((visitor.life_cycle [] ⟨(), #[]⟩ hreach).2.1 _ _).2 ⟨hend, rfl, rfl⟩⟩

end GoalPlanner
