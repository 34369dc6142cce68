import GoalPlanner.Proofs.Search.Covered
import Mathlib

/-!
# Estimates that are lower bounds

Where no estimate exceeds what the rest of the way costs (`Problem.Admissible`), a search need not run out of entries to
be right. As long as no node that is done has been found, every walk to one passes a node that waits with no more than
the cost of the walk so far (`Covered.exists_waiting`), and the entry of that node has a bound no larger than the cost
of the whole walk. Entries come out in the order of their bounds (`Sorted`), so the first node found to be done costs no
more than any walk (`bestLeast_turn`), and with any limit the best node is a cheapest one (`bestLeast_run`).
-/

namespace GoalPlanner

/-- The estimate of a node that can be reached is no larger than what any walk from it to a node that is done costs. -/
def Problem.Admissible {σ α : Type} (p : Problem σ α Rat) : Prop :=
  ∀ (before after : List α) (n m : σ), (∀ a ∈ before, a ∈ p.actions) → (∀ a ∈ after, a ∈ p.actions) →
    p.after p.start before = some n → p.after n after = some m → p.done m = true → p.estimate n ≤ p.total after

/-! ## The order of the queue -/

section

variable {σ : Type}

/-- What entries are ordered by. -/
def Entry.key (e : Entry σ Rat) : Rat ×ₗ String ×ₗ Nat := toLex (e.bound, toLex (e.label, e.number))

theorem Entry.before_iff {d e : Entry σ Rat} : d.before e = true ↔ d.key < e.key := by
  simp only [before, key, Prod.Lex.toLex_lt_toLex, Bool.or_eq_true, Bool.and_eq_true, Bool.not_eq_true',
    decide_eq_true_eq, decide_eq_false_iff_not, beq_iff_eq]
  constructor
  · rintro (h | ⟨hle, h⟩)
    · exact .inl h
    · exact (lt_or_eq_of_le (not_lt.1 hle)).imp_right fun heq => ⟨heq, h⟩
  · rintro (h | ⟨heq, h⟩)
    · exact .inl h
    · exact .inr ⟨heq.not_gt, h⟩

theorem Entry.before_eq_false_iff {d e : Entry σ Rat} : d.before e = false ↔ e.key ≤ d.key := by
  rw [← Bool.not_eq_true, before_iff, not_lt]

theorem Entry.order : Queue.Order (Entry.before (σ := σ) (κ := Rat)) where
  asymm h := before_eq_false_iff.2 (le_of_lt (before_iff.1 h))
  trans h k := before_eq_false_iff.2 (le_trans (before_eq_false_iff.1 h) (before_eq_false_iff.1 k))

end

namespace Search

variable {σ α : Type} [BEq σ] [Hashable σ] {p : Problem σ α Rat} {s : Search σ α Rat}

/-- The queue is in order, and the bound of every entry is its cost plus the estimate of its node. -/
structure Sorted (p : Problem σ α Rat) (s : Search σ α Rat) : Prop where
  ordered : s.queue.Ordered Entry.before
  bound : ∀ {e : Entry σ Rat}, e ∈ s.queue.toList → e.bound = e.cost + p.estimate e.node

theorem Sorted.reach (h : Sorted p s) (m : σ) (a : α) (n : σ) (c : Rat) : Sorted p (s.reach p m a n c) where
  ordered := Queue.ordered_push Entry.order _ h.ordered
  bound he := by
    rcases (mem_queue_reach p s m a n c _).1 he with rfl | he
    · rfl
    · exact h.bound he

theorem Sorted.attempt (h : Sorted p s) (n : σ) (c : Rat) (a : α) : Sorted p (attempt p n c s a) := by
  rcases attempt_cases p n c s a with ⟨e, -⟩ | ⟨m, -, -, -, -, e⟩ <;> rw [e]
  · exact h
  · exact h.reach n a m _

theorem sorted_init (p : Problem σ α Rat) : Sorted p (init p) where
  ordered := Queue.ordered_push Entry.order _ trivial
  bound he := by
    simp only [init, (Queue.toList_push _ _ _).mem_iff, Queue.toList, List.mem_singleton] at he
    subst he
    exact (zero_add _).symm

/-- Every turn keeps a search sorted. -/
theorem sorted_turn {e : Entry σ Rat} {rest : Queue (Entry σ Rat)}
    (hq : s.queue.pop? Entry.before = some (e, rest)) (h : Sorted p s) : Sorted p (follow p (s.taken rest) e) := by
  have hrest : Sorted p (s.taken rest) :=
    ⟨Queue.ordered_of_pop? Entry.order h.ordered hq, fun hm => h.bound ((Queue.mem_toList_of_pop? hq).2 (.inr hm))⟩
  rcases follow_cases p (s.taken rest) e with ⟨k, -⟩ | ⟨-, -, -, ⟨-, k⟩ | ⟨-, k⟩⟩ <;> rw [k]
  · exact hrest
  · exact ⟨hrest.ordered, hrest.bound⟩
  · exact expand_induction (P := fun _ t => Sorted p t) (fun _ a _ _ ht => ht.attempt _ _ a)
      ⟨hrest.ordered, hrest.bound⟩

/-- The entry that comes out of a sorted queue has the least bound. -/
theorem Sorted.bound_le (h : Sorted p s) {e f : Entry σ Rat} {rest : Queue (Entry σ Rat)}
    (hq : s.queue.pop? Entry.before = some (e, rest)) (hf : f ∈ s.queue.toList) : e.bound ≤ f.bound := by
  rcases (Queue.mem_toList_of_pop? hq).1 hf with rfl | hf
  · exact le_refl _
  · have hkey := Entry.before_eq_false_iff.1 (Queue.pop?_least h.ordered hq f hf)
    rcases Prod.Lex.toLex_le_toLex.1 hkey with hlt | ⟨heq, -⟩
    · exact le_of_lt hlt
    · exact le_of_eq heq

/-! ## Walks pass waiting nodes -/

/-- Before a node that is done has been found, a walk to one passes a node that waits with no more than the cost of the
walk so far. -/
theorem Covered.exists_waiting (h : Covered p s) (hbest : s.best = none) {as : List α} (has : ∀ a ∈ as, a ∈ p.actions)
    {n m : σ} {c : Rat} (hn : s.costs[n]? = some c) (hw : p.after n as = some m) (hm : p.done m = true) :
    ∃ before after e, as = before ++ after ∧ e ∈ s.queue.toList ∧ p.after n before = some e.node ∧
      e.cost ≤ c + p.total before := by
  have hout (d : Rat) : s.outbid d = false := by
    rw [outbid, hbest]
  induction as generalizing n c with
  | nil =>
    by_cases hc : n ∈ s.closed
    · cases hw
      exact absurd ((h.followed hn hc).done hm) (by rw [hout]; decide)
    · obtain ⟨e, he, rfl, rfl⟩ := (h.waiting hn hc).resolve_left (by rw [hout]; decide)
      exact ⟨[], [], e, rfl, he, rfl, by simp⟩
  | cons a as ih =>
    by_cases hc : n ∈ s.closed
    · have hf := h.followed hn hc
      have hd : p.done n = false := by
        rw [← Bool.not_eq_true]
        exact fun hd => absurd (hf.done hd) (by rw [hout]; decide)
      obtain ⟨k, hk, hw⟩ := Problem.after_cons_eq_some_iff.1 hw
      obtain ⟨d, hkd, hdc⟩ := (hf.steps hd a (has a List.mem_cons_self) k hk).resolve_left (by rw [hout]; decide)
      obtain ⟨before, after, e, rfl, he, hafter, hle⟩ := ih (fun b hb => has b (List.mem_cons_of_mem a hb)) hkd hw
      refine ⟨a :: before, after, e, rfl, he, Problem.after_cons_eq_some_iff.2 ⟨k, hk, hafter⟩, ?_⟩
      rw [Problem.total_cons]
      linarith
    · obtain ⟨e, he, rfl, rfl⟩ := (h.waiting hn hc).resolve_left (by rw [hout]; decide)
      exact ⟨[], a :: as, e, rfl, he, rfl, by simp⟩

/-- With estimates that are lower bounds, the entry that comes out before a node that is done has been found has a bound
no larger than the cost of any walk from the start to such a node. -/
theorem Covered.bound_le_total (h : Covered p s) (hg : Grounded p s) (hs : Sorted p s) (hp : p.Admissible)
    (hbest : s.best = none) {e : Entry σ Rat} {rest : Queue (Entry σ Rat)}
    (hq : s.queue.pop? Entry.before = some (e, rest)) {as : List α} (has : ∀ a ∈ as, a ∈ p.actions) {m : σ}
    (hw : p.after p.start as = some m) (hm : p.done m = true) : e.bound ≤ p.total as := by
  obtain ⟨before, after, f, rfl, hf, hbefore, hle⟩ := h.exists_waiting hbest has hg.start_cost hw hm
  have hafter : p.after f.node after = some m := by
    rwa [p.after_append, hbefore] at hw
  have hest : p.estimate f.node ≤ p.total after :=
    hp before after f.node m (fun a ha => has a (List.mem_append_left _ ha))
      (fun a ha => has a (List.mem_append_right _ ha)) hbefore hafter hm
  calc e.bound ≤ f.bound := hs.bound_le hq hf
    _ = f.cost + p.estimate f.node := hs.bound hf
    _ ≤ p.total before + p.total after := by linarith
    _ = p.total (before ++ after) := (Problem.total_append before after).symm

/-! ## The best node is a cheapest one -/

/-- No walk from the start to a node that is done costs less than the best node. -/
def BestLeast (p : Problem σ α Rat) (s : Search σ α Rat) : Prop :=
  ∀ n b, s.best = some (n, b) → ∀ as : List α, (∀ a ∈ as, a ∈ p.actions) → ∀ m, p.after p.start as = some m →
    p.done m = true → b ≤ p.total as

/-- An expansion leaves the best node as it is. -/
theorem best_expand (p : Problem σ α Rat) (s : Search σ α Rat) (n : σ) (c : Rat) : (s.expand p n c).best = s.best := by
  refine expand_induction (P := fun _ t => t.best = s.best) (fun _ a t _ ht => ?_) rfl
  rcases attempt_cases p n c t a with ⟨e, -⟩ | ⟨m, -, -, -, -, e⟩ <;> rw [e]
  · exact ht
  · exact ht

/-- With estimates that are lower bounds and not negative, every turn keeps the best node a cheapest one. -/
theorem bestLeast_turn (hp : p.Admissible) (hest : ∀ n, 0 ≤ p.estimate n) {e : Entry σ Rat}
    {rest : Queue (Entry σ Rat)} (hq : s.queue.pop? Entry.before = some (e, rest)) (hc : Covered p s)
    (hg : Grounded p s) (hs : Sorted p s) (h : BestLeast p s) : BestLeast p (follow p (s.taken rest) e) := by
  rcases follow_cases p (s.taken rest) e with ⟨k, -⟩ | ⟨-, hout, -, ⟨-, k⟩ | ⟨-, k⟩⟩ <;> rw [k]
  · exact h
  · intro n b hb as has m hw hm
    obtain ⟨rfl, rfl⟩ : e.node = n ∧ e.cost = b := by simpa [Search.settle] using hb
    cases hbest : s.best with
    | none =>
      have hbound := hc.bound_le_total hg hs hp hbest hq has hw hm
      rw [hs.bound ((Queue.mem_toList_of_pop? hq).2 (.inl rfl))] at hbound
      linarith [hest e.node]
    | some x =>
      -- the node found before costs no more than the walk, and this one costs less
      have hlt : e.cost < x.2 := not_le.1 fun hle => by
        have hout' : s.outbid e.cost = true := outbid_iff.2 ⟨x.1, x.2, hbest, hle⟩
        rw [show (s.taken rest).outbid e.cost = s.outbid e.cost from rfl, hout'] at hout
        cases hout
      exact le_of_lt (hlt.trans_le (h x.1 x.2 hbest as has m hw hm))
  · intro n b hb
    rw [best_expand] at hb
    exact h n b hb

variable [LawfulBEq σ]

/-- With estimates that are lower bounds and not negative, the best node of every run costs no more than any walk from
the start to a node that is done, whatever the limit. -/
theorem bestLeast_run (hp : p.Admissible) (hest : ∀ n, 0 ≤ p.estimate n) (hcost : ∀ a ∈ p.actions, 0 ≤ p.cost a)
    (limit : Nat) : BestLeast p (run p limit) :=
  (run_induction (P := fun s => (Grounded p s ∧ Covered p s) ∧ Sorted p s ∧ BestLeast p s)
    ⟨⟨grounded_init p, covered_init p⟩, sorted_init p, fun n b hb => by simp [init] at hb⟩
    (fun _ _ _ hq h => ⟨⟨grounded_turn hcost hq h.1.1, covered_turn hcost hq h.1.1 h.1.2⟩, sorted_turn hq h.2.1,
      bestLeast_turn hp hest hq h.1.2 h.1.1 h.2.1 h.2.2⟩) limit).2.2

end Search

end GoalPlanner
