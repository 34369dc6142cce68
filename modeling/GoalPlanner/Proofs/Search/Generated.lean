import GoalPlanner.Proofs.Search.Exhaustion

/-!
# The nodes that a search comes across

A run comes across its start and the nodes that actions lead to from those that its turns take up (`Generated`). It
records nothing of any other node (`within_generated`). In a set that no step leaves it records nothing of nodes outside
(`Problem.Confined.within_run`), so it comes across no other ones (`Problem.Confined.mem_of_generated`).

What is said here holds for costs of any kind.
-/

namespace GoalPlanner

namespace Search

/-! ## Records -/

/-- All that a search has recorded is about nodes of a set. -/
structure Within {σ α κ : Type} [BEq σ] [Hashable σ] (N : Set σ) (s : Search σ α κ) : Prop where
  queue : ∀ e ∈ s.queue.toList, e.node ∈ N
  costs : ∀ n ∈ s.costs, n ∈ N
  links : ∀ n m a, s.links[n]? = some (m, a) → n ∈ N ∧ m ∈ N
  closed : ∀ n ∈ s.closed, n ∈ N
  best : ∀ n c, s.best = some (n, c) → n ∈ N

theorem Within.mono {σ α κ : Type} [BEq σ] [Hashable σ] {N M : Set σ} {s : Search σ α κ} (h : Within N s)
    (hNM : N ⊆ M) : Within M s where
  queue e he := hNM (h.queue e he)
  costs n hn := hNM (h.costs n hn)
  links n m a hl := ⟨hNM (h.links n m a hl).1, hNM (h.links n m a hl).2⟩
  closed n hn := hNM (h.closed n hn)
  best n c hb := hNM (h.best n c hb)

variable {σ α κ : Type} [Cost κ] [BEq σ] [Hashable σ] {N : Set σ} {p : Problem σ α κ} {s : Search σ α κ}

theorem Within.taken (h : Within N s) {e : Entry σ κ} {rest : Queue (Entry σ κ)}
    (hq : s.queue.pop? Entry.before = some (e, rest)) : e.node ∈ N ∧ Within N (s.taken rest) :=
  ⟨h.queue e ((Queue.mem_toList_of_pop? hq).2 (.inl rfl)),
    { h with queue := fun d hd => h.queue d ((Queue.mem_toList_of_pop? hq).2 (.inr hd)) }⟩

/-! ## Nodes come across -/

/-- The nodes that a run of at most so many turns comes across: the start, and those that the actions lead to from the
node of an entry that a turn takes from the queue. -/
inductive Generated (p : Problem σ α κ) (limit : Nat) : σ → Prop
  | start : Generated p limit p.start
  | next {turn : Nat} {e : Entry σ κ} {rest : Queue (Entry σ κ)} {a : α} {m : σ} (hturn : turn < limit)
      (hq : (run p turn).queue.pop? Entry.before = some (e, rest)) (ha : a ∈ p.actions)
      (hnext : p.next a e.node = some m) : Generated p limit m

theorem Generated.mono {k l : Nat} (h : k ≤ l) {n : σ} (hn : Generated p k n) : Generated p l n := by
  cases hn with
  | start => exact .start
  | next hturn hq ha hnext => exact .next (Nat.lt_of_lt_of_le hturn h) hq ha hnext

variable [LawfulBEq σ]

namespace Within

theorem init (h : p.start ∈ N) : Within N (Search.init p) where
  queue e he := by
    simp only [Search.init, (Queue.toList_push _ _ _).mem_iff, Queue.toList, List.mem_singleton] at he
    rw [he]
    exact h
  costs n hn := by
    simp only [Search.init, Std.HashMap.mem_insert, beq_iff_eq, Std.HashMap.not_mem_empty, or_false] at hn
    exact hn ▸ h
  links n m a hl := by simp [Search.init] at hl
  closed n hn := by simp [Search.init] at hn
  best n c hb := by simp [Search.init] at hb

omit [Cost κ] in
theorem close (h : Within N s) {n : σ} (hn : n ∈ N) : Within N (s.close n) :=
  { h with
    closed := fun m hm => by
      rw [Search.close, Std.HashSet.mem_insert, beq_iff_eq] at hm
      rcases hm with rfl | hm
      · exact hn
      · exact h.closed m hm }

omit [Cost κ] in
theorem settle (h : Within N s) {n : σ} (hn : n ∈ N) (c : κ) : Within N (s.settle n c) :=
  { h.close hn with
    best := fun m d hb => by
      cases hb
      exact hn }

theorem reach (h : Within N s) {m n : σ} (hm : m ∈ N) (hn : n ∈ N) (a : α) (c : κ) :
    Within N (s.reach p m a n c) where
  queue e he := by
    simp only [Search.reach, (Queue.toList_push _ _ _).mem_iff, List.mem_cons] at he
    rcases he with rfl | he
    · exact hn
    · exact h.queue e he
  costs x hx := by
    rw [Search.reach, Std.HashMap.mem_insert, beq_iff_eq] at hx
    rcases hx with rfl | hx
    · exact hn
    · exact h.costs x hx
  links x y b hl := by
    rw [links_reach] at hl
    split at hl
    · rename_i he
      cases hl
      exact ⟨eq_of_beq he ▸ hn, hm⟩
    · exact h.links x y b hl
  closed x hx := by
    rw [Search.reach, Std.HashSet.mem_erase] at hx
    exact h.closed x hx.2
  best := h.best

/-- A turn records nothing of other nodes than before and those that actions lead to from the node taken up. -/
theorem turn (h : Within N s) {e : Entry σ κ} {rest : Queue (Entry σ κ)}
    (hq : s.queue.pop? Entry.before = some (e, rest))
    (hnext : ∀ a ∈ p.actions, ∀ m, p.next a e.node = some m → m ∈ N) : Within N (follow p (s.taken rest) e) := by
  obtain ⟨he, h⟩ := h.taken hq
  rcases follow_cases p (s.taken rest) e with ⟨k, -⟩ | ⟨-, -, -, ⟨-, k⟩ | ⟨-, k⟩⟩ <;> rw [k]
  · exact h
  · exact h.settle he e.cost
  · -- the node of the entry is closed, and every action that leads to a better path records one node more
    refine expand_induction (P := fun _ t => Within N t) (fun _ a t ha ht => ?_) (h.close he)
    rcases attempt_cases p e.node e.cost t a with ⟨k, -⟩ | ⟨m, hm, -, -, -, k⟩ <;> rw [k]
    · exact ht
    · exact ht.reach he (hnext a ha m hm) a _

end Within

/-- A run records nothing of nodes that it has not come across. -/
theorem within_generated (p : Problem σ α κ) (limit : Nat) : Within {n | Generated p limit n} (run p limit) := by
  induction limit with
  | zero => exact .init .start
  | succ limit ih =>
    have ih : Within {n | Generated p (limit + 1) n} (run p limit) := ih.mono fun _ => .mono (Nat.le_succ limit)
    rw [run_add, iterate]
    cases hstep : step p (run p limit) with
    | none => exact ih
    | some t =>
      obtain ⟨e, rest, hq, rfl⟩ := step_eq_some_iff.1 hstep
      exact ih.turn hq fun a ha m hm => .next (Nat.lt_succ_self limit) hq ha hm

end Search

/-! ## Sets that no step leaves -/

namespace Problem.Confined

variable {σ α κ : Type} [Cost κ] [BEq σ] [Hashable σ] [LawfulBEq σ] {N : Set σ} {p : Problem σ α κ}

/-- A run records nothing of nodes outside a set that no step leaves. -/
theorem within_run (h : p.Confined N) (limit : Nat) : (Search.run p limit).Within N :=
  Search.run_induction (P := Search.Within N) (.init h.start)
    (fun _ e _ hq hs => hs.turn hq fun a ha => h.next a ha e.node (hs.taken hq).1) limit

/-- A run comes across no nodes outside a set that no step leaves. -/
theorem mem_of_generated (h : p.Confined N) {limit : Nat} {n : σ} (hn : Search.Generated p limit n) : n ∈ N := by
  cases hn with
  | start => exact h.start
  | next _ hq ha hnext => exact h.next _ ha _ ((h.within_run _).taken hq).1 _ hnext

end Problem.Confined

end GoalPlanner
