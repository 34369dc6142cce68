import GoalPlanner.Search

/-!
# One turn of a search

What a turn can do, said once. An action that is tried changes nothing or reaches a node at a lower cost than before
(`attempt_cases`). An entry that is taken is dropped, ends at a node that is done, or has its node expanded
(`follow_cases`). What holds before the first turn and is kept by every turn holds after every run (`run_induction`);
what every attempt keeps is kept by an expansion (`expand_induction`).

The laws of this file need nothing of the costs. Two consequences are drawn here: a way found consists of actions of the
problem (`mem_actions_of_way?`), and what is found within two turns is found whatever costs are, but for a few
comparisons (`run_of_done`, `way?_run_of_one_action`).
-/

namespace GoalPlanner

/-- The members of a queue before its first one has been taken. -/
theorem Queue.mem_toList_of_pop? {α : Type} {before : α → α → Bool} {q rest : Queue α} {x y : α}
    (h : q.pop? before = some (x, rest)) : y ∈ q.toList ↔ y = x ∨ y ∈ rest.toList := by
  rw [(toList_of_pop? h).mem_iff, List.mem_cons]

namespace Search

variable {σ α κ : Type} [Cost κ] [BEq σ] [Hashable σ]

/-! ## The parts of a turn -/

/-- The search after an entry has been taken from the queue. -/
def taken (s : Search σ α κ) (rest : Queue (Entry σ κ)) : Search σ α κ :=
  { s with queue := rest, steps := s.steps + 1 }

/-- The search with a node closed. -/
def close (s : Search σ α κ) (node : σ) : Search σ α κ := { s with closed := s.closed.insert node }

/-- The search with a node that is done as the best one. -/
def settle (s : Search σ α κ) (node : σ) (cost : κ) : Search σ α κ := { s.close node with best := some (node, cost) }

theorem step_eq_none_iff {p : Problem σ α κ} {s : Search σ α κ} : step p s = none ↔ s.queue.toList = [] := by
  have h : s.queue.pop? Entry.before = none ↔ s.queue.toList = [] := Queue.pop?_eq_none_iff
  rw [← h, step]
  cases s.queue.pop? Entry.before <;> simp

theorem step_eq_some_iff {p : Problem σ α κ} {s t : Search σ α κ} :
    step p s = some t ↔ ∃ e rest, s.queue.pop? Entry.before = some (e, rest) ∧ t = follow p (s.taken rest) e := by
  rw [step]
  cases h : s.queue.pop? Entry.before with
  | none => simp
  | some x =>
    obtain ⟨e, rest⟩ := x
    simp only [Option.some.injEq, Prod.mk.injEq, taken]
    constructor
    · rintro rfl
      exact ⟨e, rest, ⟨rfl, rfl⟩, rfl⟩
    · rintro ⟨_, _, ⟨rfl, rfl⟩, rfl⟩
      rfl

/-- An action that is tried is idle, or it reaches a node at a cost that is neither outbid nor as high as before. -/
theorem attempt_cases (p : Problem σ α κ) (source : σ) (cost : κ) (s : Search σ α κ) (a : α) :
    (attempt p source cost s a = s ∧ ∀ n, p.next a source = some n →
      (n == source) = true ∨ s.outbid (cost + p.cost a) = true ∨ s.improves n (cost + p.cost a) = false) ∨
    ∃ n, p.next a source = some n ∧ (n == source) = false ∧ s.outbid (cost + p.cost a) = false ∧
      s.improves n (cost + p.cost a) = true ∧
      attempt p source cost s a = s.reach p source a n (cost + p.cost a) := by
  unfold attempt
  cases hn : p.next a source with
  | none => exact Or.inl ⟨rfl, fun n h => by cases h⟩
  | some n =>
    by_cases h : n == source || s.outbid (cost + p.cost a) || !s.improves n (cost + p.cost a)
    · refine Or.inl ⟨by simp only [h, if_true], fun m hm => ?_⟩
      cases hm
      simpa [or_assoc] using h
    · simp only [Bool.or_eq_true, Bool.not_eq_true', not_or, Bool.not_eq_true, Bool.not_eq_false] at h
      exact Or.inr ⟨n, rfl, h.1.1, h.1.2, h.2, by simp [h.1.1, h.1.2, h.2]⟩

/-- An entry that is taken is dropped, or its node is closed and then settled or expanded. -/
theorem follow_cases (p : Problem σ α κ) (s : Search σ α κ) (e : Entry σ κ) :
    (follow p s e = s ∧ (s.stale e = true ∨ s.outbid e.cost = true ∨ e.node ∈ s.closed)) ∨
    (s.stale e = false ∧ s.outbid e.cost = false ∧ e.node ∉ s.closed ∧
      (p.done e.node = true ∧ follow p s e = s.settle e.node e.cost ∨
        p.done e.node = false ∧ follow p s e = (s.close e.node).expand p e.node e.cost)) := by
  unfold follow
  by_cases h : s.stale e || s.outbid e.cost || s.closed.contains e.node
  · refine Or.inl ⟨by simp only [h, if_true], ?_⟩
    simpa [or_assoc] using h
  · simp only [Bool.or_eq_true, not_or, Bool.not_eq_true, Std.HashSet.contains_eq_false_iff_not_mem] at h
    obtain ⟨⟨hs, ho⟩, hc⟩ := h
    refine Or.inr ⟨hs, ho, hc, ?_⟩
    cases hd : p.done e.node <;> simp [hs, ho, hc, close, settle]

/-! ## Induction over expansions and runs -/

/-- What every attempt from a node keeps is kept by its expansion; the actions tried so far may be spoken of. -/
theorem expand_induction {p : Problem σ α κ} {node : σ} {cost : κ} {P : List α → Search σ α κ → Prop}
    (step : ∀ tried a s, a ∈ p.actions → P tried s → P (tried ++ [a]) (attempt p node cost s a))
    {s : Search σ α κ} (first : P [] s) : P p.actions (s.expand p node cost) := by
  suffices h : ∀ (todo tried : List α) (s : Search σ α κ), (∀ a ∈ todo, a ∈ p.actions) → P tried s →
      P (tried ++ todo) (todo.foldl (attempt p node cost) s) from
    h p.actions [] s (fun _ h => h) first
  intro todo
  induction todo with
  | nil => intro tried s _ hs; simpa using hs
  | cons a todo ih =>
    intro tried s hm hs
    have := ih (tried ++ [a]) _ (fun b hb => hm b (List.mem_cons_of_mem _ hb)) (step tried a s (hm a (by simp)) hs)
    simpa using this

theorem iterate_induction {p : Problem σ α κ} {P : Search σ α κ → Prop}
    (turn : ∀ s e rest, s.queue.pop? Entry.before = some (e, rest) → P s → P (follow p (s.taken rest) e))
    {s : Search σ α κ} (first : P s) (limit : Nat) : P (iterate p limit s) := by
  induction limit generalizing s with
  | zero => exact first
  | succ limit ih =>
    rw [iterate]
    cases h : step p s with
    | none => exact first
    | some t =>
      obtain ⟨e, rest, hq, rfl⟩ := step_eq_some_iff.1 h
      exact ih (turn s e rest hq first)

/-- What holds before the first turn and is kept by every turn holds after every run. -/
theorem run_induction {p : Problem σ α κ} {P : Search σ α κ → Prop} (first : P (init p))
    (turn : ∀ s e rest, s.queue.pop? Entry.before = some (e, rest) → P s → P (follow p (s.taken rest) e))
    (limit : Nat) : P (run p limit) :=
  iterate_induction turn first limit

/-! ## Limits -/

/-- Nothing happens once nothing waits. -/
theorem iterate_of_queue_eq_nil (p : Problem σ α κ) (limit : Nat) {s : Search σ α κ} (h : s.queue.toList = []) :
    iterate p limit s = s := by
  cases limit with
  | zero => rfl
  | succ limit => rw [iterate, step_eq_none_iff.2 h]

/-- Each turn counts. -/
theorem steps_follow (p : Problem σ α κ) (s : Search σ α κ) (e : Entry σ κ) : (follow p s e).steps = s.steps := by
  have attempt_steps (node : σ) (cost : κ) (t : Search σ α κ) (a : α) :
      (attempt p node cost t a).steps = t.steps := by
    rcases attempt_cases p node cost t a with ⟨h, -⟩ | ⟨n, -, -, -, -, h⟩ <;> rw [h]
    rfl
  rcases follow_cases p s e with ⟨h, -⟩ | ⟨-, -, -, ⟨-, h⟩ | ⟨-, h⟩⟩ <;> rw [h]
  · rfl
  · exact expand_induction (P := fun _ t => t.steps = s.steps)
      (fun _ a t _ ht => (attempt_steps _ _ t a).trans ht) rfl

/-- A run that leaves entries in the queue has made as many turns as the limit allows. -/
theorem steps_iterate {p : Problem σ α κ} {limit : Nat} {s : Search σ α κ}
    (h : (iterate p limit s).queue.toList ≠ []) : (iterate p limit s).steps = s.steps + limit := by
  induction limit generalizing s with
  | zero => rfl
  | succ limit ih =>
    rw [iterate] at h ⊢
    cases hs : step p s with
    | none =>
      rw [hs] at h
      exact absurd (step_eq_none_iff.1 hs) h
    | some t =>
      rw [hs] at h
      obtain ⟨e, rest, -, rfl⟩ := step_eq_some_iff.1 hs
      simp only at h ⊢
      rw [ih h, steps_follow]
      simp only [taken]
      omega

/-- A run is cut short exactly when it leaves entries in the queue. -/
theorem cut_run_iff {p : Problem σ α κ} {limit : Nat} :
    (run p limit).cut limit = true ↔ (run p limit).queue.toList ≠ [] := by
  have size : (run p limit).queue.size = 0 ↔ (run p limit).queue.toList = [] := by
    rw [Queue.size_eq_length, List.length_eq_zero_iff]
  simp only [cut, Bool.and_eq_true, bne_iff_ne, ne_eq, size, decide_eq_true_eq, and_iff_left_iff_imp]
  intro h
  have : (run p limit).steps = 0 + limit := steps_iterate h
  omega

/-! ## Links -/

theorem mem_of_mem_wayTo {links : Std.HashMap σ (σ × α)} {P : α → Prop}
    (h : ∀ (n m : σ) (a : α), links[n]? = some (m, a) → P a) (fuel : Nat) (n : σ) (after : List α) (ha : ∀ a ∈ after, P a) :
    ∀ a ∈ wayTo links fuel n after, P a := by
  induction fuel generalizing n after with
  | zero => exact ha
  | succ fuel ih =>
    rw [wayTo]
    cases hl : links[n]? with
    | none => exact ha
    | some l =>
      obtain ⟨m, b⟩ := l
      refine ih m (b :: after) fun a hm => ?_
      rcases List.mem_cons.1 hm with rfl | hm
      · exact h n m _ hl
      · exact ha a hm

variable [LawfulBEq σ]

theorem links_reach (p : Problem σ α κ) (s : Search σ α κ) (m : σ) (a : α) (n : σ) (c : κ) (x : σ) :
    (s.reach p m a n c).links[x]? = if n == x then some (m, a) else s.links[x]? := by
  simp [reach, Std.HashMap.getElem?_insert]

/-- Whatever happens in a turn, its new links come from actions of the problem. -/
theorem mem_actions_of_link (p : Problem σ α κ) (limit : Nat) {n m : σ} {a : α}
    (h : (run p limit).links[n]? = some (m, a)) : a ∈ p.actions := by
  refine run_induction (P := fun s => ∀ n m a, s.links[n]? = some (m, a) → a ∈ p.actions) ?_ ?_ limit n m a h
  · intro n m a h
    simp [init] at h
  · intro s e rest _ hs
    rcases follow_cases p (s.taken rest) e with ⟨h, -⟩ | ⟨-, -, -, ⟨-, h⟩ | ⟨-, h⟩⟩ <;> rw [h]
    · exact hs
    · exact hs
    · refine expand_induction (P := fun _ s => ∀ n m a, s.links[n]? = some (m, a) → a ∈ p.actions) ?_ hs
      intro _ b t hb ht n m a hl
      rcases attempt_cases p e.node e.cost t b with ⟨h, -⟩ | ⟨k, -, -, -, -, h⟩ <;> rw [h] at hl
      · exact ht n m a hl
      · rw [links_reach] at hl
        split at hl
        · cases hl; exact hb
        · exact ht n m a hl

/-- A way found consists of actions of the problem. -/
theorem mem_actions_of_way? {p : Problem σ α κ} {limit : Nat} {way : List α} (h : (run p limit).way? = some way) :
    ∀ a ∈ way, a ∈ p.actions := by
  obtain ⟨⟨n, c⟩, -, rfl⟩ := Option.map_eq_some_iff.1 h
  exact mem_of_mem_wayTo (fun n m a hl => mem_actions_of_link p limit hl) _ n [] (by simp)

/-! ## The first turns -/

/-- A start that is done is found in the first turn, and ends the search. -/
theorem run_of_done (p : Problem σ α κ) (hzero : ¬(0 : κ) < 0) (h : p.done p.start = true) (limit : Nat) :
    run p (limit + 1) = ((init p).taken .empty).settle p.start 0 := by
  have hq : (init p).queue.pop? Entry.before = some (⟨p.estimate p.start, "", 0, 0, p.start⟩, .empty) := by
    simp [init, Queue.push, Queue.merge, Queue.pop?]
  have hf : follow p ((init p).taken .empty) ⟨p.estimate p.start, "", 0, 0, p.start⟩ =
      ((init p).taken .empty).settle p.start 0 := by
    simp [follow, stale, outbid, init, taken, settle, Search.close, h, hzero]
  rw [run, iterate, step_eq_some_iff.2 ⟨_, _, hq, rfl⟩, hf]
  exact iterate_of_queue_eq_nil p limit rfl

/-- Where the only action leads from the start to a node that is done, it is the way found, in the second turn. -/
theorem way?_run_of_one_action (p : Problem σ α κ) {a : α} {n : σ} (ha : p.actions = [a])
    (hs : p.done p.start = false) (hnext : p.next a p.start = some n) (hn : p.done n = true) (hzero : ¬(0 : κ) < 0)
    (hcost : ¬0 + p.cost a < 0 + p.cost a) (hbounded : Cost.bounded (0 + p.cost a) = true) (limit : Nat) :
    (run p (limit + 2)).way? = some [a] := by
  have hne : n ≠ p.start := by
    rintro rfl
    rw [hs] at hn
    cases hn
  have hreach : step p (init p) =
      some ((((init p).taken .empty).close p.start).reach p p.start a n (0 + p.cost a)) := by
    simp [step, init, follow, expand, attempt, reach, taken, Search.close, Queue.push, Queue.pop?, Queue.merge, stale,
      outbid, improves, ha, hs, hnext, hne, hne.symm, hzero, hbounded]
  generalize hr : (((init p).taken .empty).close p.start).reach p p.start a n (0 + p.cost a) = r at hreach
  have hsettle : step p r = some ((r.taken .empty).settle n (0 + p.cost a)) := by
    rw [← hr]
    simp [step, init, follow, reach, taken, settle, Search.close, Queue.push, Queue.pop?, Queue.merge, stale, outbid,
      hne.symm, hn, hcost]
  have hlink : r.links[n]? = some (p.start, a) := by
    rw [← hr]
    simp [reach]
  have hsize : r.links.size = 1 := by
    rw [← hr]
    simp [reach, taken, Search.close, init, Std.HashMap.size_insert]
  rw [run, iterate, hreach]
  dsimp only
  rw [iterate, hsettle]
  dsimp only
  rw [iterate_of_queue_eq_nil p limit (by rw [← hr]; rfl)]
  show some (wayTo r.links r.links.size n []) = some [a]
  rw [hsize, wayTo, hlink]
  rfl

end Search

end GoalPlanner
