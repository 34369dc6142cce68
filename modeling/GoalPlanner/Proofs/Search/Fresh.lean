import GoalPlanner.Proofs.Search.Admissible
import GoalPlanner.Proofs.Search.Limit
import Mathlib

/-!
# Nothing is taken up twice at one cost

Whenever an entry is made for a node, the node has become cheaper than in all its earlier entries. So two entries of one
node never have the same cost, and all entries of a closed node are stale (`Fresh`, `fresh_run`): an entry that passes
the tests for being stale and outbid is never one of a closed node (`Passes.not_mem_closed`).

A node that an entry has been taken up for is closed, or has become cheaper since (`Spent`). With the above, a node that
is taken up again then costs less (`Passes.cost_lt`). A node that is recorded as the best outbids its cost from then on,
so one that is recorded later costs less as well (`Records.cost_lt`).
-/

namespace GoalPlanner.Search

/-! ## What happens in a turn -/

section

variable {σ α κ : Type} [Cost κ] [BEq σ] [Hashable σ]

/-- After so many turns an entry comes out of the queue that is neither stale nor outbid. -/
def Passes (p : Problem σ α κ) (turns : Nat) (e : Entry σ κ) : Prop :=
  ∃ rest, (run p turns).queue.pop? Entry.before = some (e, rest) ∧
    (run p turns).stale e = false ∧ (run p turns).outbid e.cost = false

/-- After so many turns a node is expanded that has been reached at a cost. -/
def Expands (p : Problem σ α κ) (turns : Nat) (n : σ) (c : κ) : Prop :=
  ∃ e, Passes p turns e ∧ e.node ∉ (run p turns).closed ∧ p.done e.node = false ∧ e.node = n ∧ e.cost = c

/-- After so many turns a node that is done is recorded as the best one, with a cost. -/
def Records (p : Problem σ α κ) (turns : Nat) (n : σ) (c : κ) : Prop :=
  ∃ e, Passes p turns e ∧ e.node ∉ (run p turns).closed ∧ p.done e.node = true ∧ e.node = n ∧ e.cost = c

/-- What comes out of the queue in the next turn: the node and the cost of the entry, and whether it is stale, outbid, of
a closed node, and of one that is done. -/
def tests (p : Problem σ α κ) (s : Search σ α κ) : Option (σ × κ × List Bool) :=
  (s.queue.pop? Entry.before).map fun (e, _) =>
    (e.node, e.cost, [s.stale e, s.outbid e.cost, s.closed.contains e.node, p.done e.node])

/-- Of what comes out of the queue, an entry that fails no test but perhaps that for being done passes. -/
theorem passes_of_tests {p : Problem σ α κ} {turns : Nat} {n : σ} {c : κ} {done : Bool}
    (h : tests p (run p turns) = some (n, c, [false, false, false, done])) :
    ∃ e, Passes p turns e ∧ e.node ∉ (run p turns).closed ∧ p.done e.node = done ∧ e.node = n ∧ e.cost = c := by
  obtain ⟨⟨e, rest⟩, hq, he⟩ := Option.map_eq_some_iff.1 h
  simp only [Prod.mk.injEq, List.cons.injEq, and_true] at he
  obtain ⟨hn, hc, hs, ho, hclosed, hd⟩ := he
  exact ⟨e, ⟨rest, hq, hs, ho⟩, Std.HashSet.contains_eq_false_iff_not_mem.1 hclosed, hd, hn, hc⟩

theorem run_succ_of_pop? {p : Problem σ α κ} {turns : Nat} {e : Entry σ κ} {rest : Queue (Entry σ κ)}
    (hq : (run p turns).queue.pop? Entry.before = some (e, rest)) :
    run p (turns + 1) = follow p ((run p turns).taken rest) e := by
  rw [run_add, iterate, step_eq_some_iff.2 ⟨e, rest, hq, rfl⟩]
  rfl

end

variable {σ α : Type} [BEq σ] [Hashable σ] {p : Problem σ α Rat} {s : Search σ α Rat}

/-! ## Entries of one node -/

/-- No two entries of a node have the same cost, and the entries of a closed node cost more than the node does. -/
structure Fresh (s : Search σ α Rat) : Prop where
  distinct : s.queue.toList.Pairwise fun d e => d.node = e.node → d.cost ≠ e.cost
  closed : ∀ {e : Entry σ Rat} {c : Rat}, e ∈ s.queue.toList → e.node ∈ s.closed → s.costs[e.node]? = some c →
    c < e.cost

theorem fresh_init (p : Problem σ α Rat) : Fresh (init p) where
  distinct := by
    simp [init, Queue.push, Queue.merge, Queue.toList]
  closed _ hc := by simp [init] at hc

/-- The entry that comes out of the queue is told apart from the others, and these from each other. -/
theorem Fresh.distinct_of_pop? (h : Fresh s) {e : Entry σ Rat} {rest : Queue (Entry σ Rat)}
    (hq : s.queue.pop? Entry.before = some (e, rest)) :
    (∀ f ∈ rest.toList, e.node = f.node → e.cost ≠ f.cost) ∧
      rest.toList.Pairwise fun d f => d.node = f.node → d.cost ≠ f.cost :=
  List.pairwise_cons.1 (h.distinct.perm (Queue.toList_of_pop? hq) fun hd hn hc => hd hn.symm hc.symm)

theorem Fresh.taken (h : Fresh s) {e : Entry σ Rat} {rest : Queue (Entry σ Rat)}
    (hq : s.queue.pop? Entry.before = some (e, rest)) : Fresh (s.taken rest) where
  distinct := (h.distinct_of_pop? hq).2
  closed he := h.closed ((Queue.mem_toList_of_pop? hq).2 (.inr he))

/-- The other entries of a node whose entry carries its cost have a higher cost. -/
theorem Fresh.cost_lt (h : Fresh s) (hg : Grounded p s) {e f : Entry σ Rat} {rest : Queue (Entry σ Rat)}
    (hq : s.queue.pop? Entry.before = some (e, rest)) (hf : f ∈ rest.toList) (hn : f.node = e.node)
    (hc : s.costs[e.node]? = some e.cost) : e.cost < f.cost := by
  have hne : e.cost ≠ f.cost := (h.distinct_of_pop? hq).1 f hf hn.symm
  obtain ⟨c, hfc, hle⟩ := hg.queued ((Queue.mem_toList_of_pop? hq).2 (.inr hf))
  rw [hn, hc] at hfc
  cases hfc
  exact lt_of_le_of_ne hle hne

variable [LawfulBEq σ]

/-- Closing the node of an entry that carries its cost. -/
theorem Fresh.close (h : Fresh s) (hg : Grounded p s) {e : Entry σ Rat} {rest : Queue (Entry σ Rat)}
    (hq : s.queue.pop? Entry.before = some (e, rest)) (hc : s.costs[e.node]? = some e.cost) :
    Fresh ((s.taken rest).close e.node) where
  distinct := (h.taken hq).distinct
  closed {f c} hf hclosed hfc := by
    simp only [Search.close, Std.HashSet.mem_insert, beq_iff_eq] at hclosed
    rcases hclosed with hn | hclosed
    · have hfc : s.costs[f.node]? = some c := hfc
      rw [← hn, hc] at hfc
      cases hfc
      exact h.cost_lt hg hq hf hn.symm hc
    · exact (h.taken hq).closed hf hclosed hfc

/-- The new entry of a node that has become cheaper costs less than its other entries. -/
theorem Fresh.reach (h : Fresh s) (hg : Grounded p s) {n : σ} {c : Rat} (hi : s.improves n c = true) (m : σ) (a : α) :
    Fresh (s.reach p m a n c) where
  distinct := by
    have hnew : ∀ e ∈ s.queue.toList, n = e.node → c ≠ e.cost := by
      rintro e he rfl
      obtain ⟨d, hd, hle⟩ := hg.queued he
      exact ne_of_lt ((improves_iff.1 hi d hd).trans_le hle)
    exact (List.pairwise_cons.2 ⟨hnew, h.distinct⟩).perm (Queue.toList_push ..).symm
      fun hd hn hc => hd hn.symm hc.symm
  closed {e d} he hclosed hd := by
    rw [mem_closed_reach] at hclosed
    rw [costs_reach, if_neg (by simpa using hclosed.1)] at hd
    rcases (mem_queue_reach p s m a n c e).1 he with rfl | he
    · exact absurd rfl hclosed.1
    · exact h.closed he hclosed.2 hd

/-- Every turn keeps a search fresh. -/
theorem fresh_turn (hcost : ∀ a ∈ p.actions, 0 ≤ p.cost a) {e : Entry σ Rat} {rest : Queue (Entry σ Rat)}
    (hq : s.queue.pop? Entry.before = some (e, rest)) (hg : Grounded p s) (h : Fresh s) :
    Fresh (follow p (s.taken rest) e) := by
  have he := hg.queued ((Queue.mem_toList_of_pop? hq).2 (.inl rfl))
  rcases follow_cases p (s.taken rest) e with ⟨k, -⟩ | ⟨hs, -, -, hd⟩
  · rw [k]
    exact h.taken hq
  have hc : s.costs[e.node]? = some e.cost := cost_eq_of_not_stale he hs
  have hclose := h.close hg hq hc
  rcases hd with ⟨-, k⟩ | ⟨-, k⟩ <;> rw [k]
  · exact ⟨hclose.distinct, hclose.closed⟩
  · -- the attempts need that the search stays grounded, and that the expanded node keeps its cost
    refine (expand_induction (P := fun _ t => (Grounded p t ∧ t.costs[e.node]? = some e.cost) ∧ Fresh t) ?_
      ⟨⟨(hg.taken hq).close e.node, hc⟩, hclose⟩).2
    rintro - a t ha ⟨⟨ht, htc⟩, hfresh⟩
    refine ⟨ht.attempt hcost ha htc, ?_⟩
    rcases attempt_cases p e.node e.cost t a with ⟨k, -⟩ | ⟨n, -, -, -, hi, k⟩ <;> rw [k]
    · exact hfresh
    · exact hfresh.reach ht hi e.node a

/-- Every run is fresh. -/
theorem fresh_run (hcost : ∀ a ∈ p.actions, 0 ≤ p.cost a) (turns : Nat) : Fresh (run p turns) :=
  (run_induction (P := fun s => Grounded p s ∧ Fresh s) ⟨grounded_init p, fresh_init p⟩
    (fun _ _ _ hq h => ⟨grounded_turn hcost hq h.1, fresh_turn hcost hq h.1 h.2⟩) turns).2

section

variable {turns : Nat} {e : Entry σ Rat}

/-- An entry that passes carries the cost of its node. -/
theorem Passes.cost_eq (hcost : ∀ a ∈ p.actions, 0 ≤ p.cost a) (h : Passes p turns e) :
    (run p turns).costs[e.node]? = some e.cost := by
  obtain ⟨rest, hq, hs, -⟩ := h
  exact cost_eq_of_not_stale ((grounded_run hcost turns).queued ((Queue.mem_toList_of_pop? hq).2 (.inl rfl))) hs

/-- An entry that passes is never one of a closed node. -/
theorem Passes.not_mem_closed (hcost : ∀ a ∈ p.actions, 0 ≤ p.cost a) (h : Passes p turns e) :
    e.node ∉ (run p turns).closed := by
  intro hclosed
  have hc := h.cost_eq hcost
  obtain ⟨rest, hq, -, -⟩ := h
  exact lt_irrefl _ ((fresh_run hcost turns).closed ((Queue.mem_toList_of_pop? hq).2 (.inl rfl)) hclosed hc)

/-- An entry that passes has its node recorded or expanded. -/
theorem Passes.run_succ (hcost : ∀ a ∈ p.actions, 0 ≤ p.cost a) (h : Passes p turns e) :
    ∃ rest, p.done e.node = true ∧ run p (turns + 1) = ((run p turns).taken rest).settle e.node e.cost ∨
      p.done e.node = false ∧
        run p (turns + 1) = (((run p turns).taken rest).close e.node).expand p e.node e.cost := by
  have hclosed := h.not_mem_closed hcost
  obtain ⟨rest, hq, hs, ho⟩ := h
  refine ⟨rest, ?_⟩
  rw [run_succ_of_pop? hq]
  rcases follow_cases p ((run p turns).taken rest) e with ⟨-, hs' | ho' | hc⟩ | ⟨-, -, -, hd⟩
  · exact absurd hs' (by rw [show ((run p turns).taken rest).stale e = false from hs]; decide)
  · exact absurd ho' (by rw [show ((run p turns).taken rest).outbid e.cost = false from ho]; decide)
  · exact absurd hc hclosed
  · exact hd

end

/-! ## Nodes that have been taken up -/

/-- A node has been taken up at a cost: it is closed, or has become cheaper since. -/
def Spent (n : σ) (c : Rat) (s : Search σ α Rat) : Prop :=
  ∃ d, s.costs[n]? = some d ∧ d ≤ c ∧ (n ∈ s.closed ∨ d < c)

theorem Spent.close {n : σ} {c : Rat} (h : Spent n c s) (m : σ) : Spent n c (s.close m) := by
  obtain ⟨d, hd, hle, hclosed⟩ := h
  refine ⟨d, hd, hle, hclosed.imp_left fun hn => ?_⟩
  rw [Search.close, Std.HashSet.mem_insert]
  exact .inr hn

theorem Spent.settle {n : σ} {c : Rat} (h : Spent n c s) (m : σ) (b : Rat) : Spent n c (s.settle m b) := h.close m

theorem Spent.attempt {n : σ} {c : Rat} (h : Spent n c s) (m : σ) (b : Rat) (a : α) :
    Spent n c (attempt p m b s a) := by
  rcases attempt_cases p m b s a with ⟨k, -⟩ | ⟨x, -, -, -, hi, k⟩ <;> rw [k]
  · exact h
  obtain ⟨d, hd, hle, hclosed⟩ := h
  by_cases hx : x = n
  · subst hx
    have hlt : b + p.cost a < d := improves_iff.1 hi d hd
    exact ⟨b + p.cost a, by rw [costs_reach, if_pos (by simp)], le_of_lt (hlt.trans_le hle), .inr (hlt.trans_le hle)⟩
  · refine ⟨d, by rw [costs_reach, if_neg (by simpa using hx)]; exact hd, hle, hclosed.imp_left fun hn => ?_⟩
    rw [mem_closed_reach]
    exact ⟨hx, hn⟩

theorem Spent.expand {n : σ} {c : Rat} (h : Spent n c s) (m : σ) (b : Rat) : Spent n c (s.expand p m b) :=
  expand_induction (P := fun _ t => Spent n c t) (fun _ a _ _ ht => ht.attempt m b a) h

/-- A node that has been taken up stays so. -/
theorem Spent.turn {n : σ} {c : Rat} (h : Spent n c s) (rest : Queue (Entry σ Rat)) (e : Entry σ Rat) :
    Spent n c (follow p (s.taken rest) e) := by
  have hrest : Spent n c (s.taken rest) := h
  rcases follow_cases p (s.taken rest) e with ⟨k, -⟩ | ⟨-, -, -, ⟨-, k⟩ | ⟨-, k⟩⟩ <;> rw [k]
  · exact hrest
  · exact hrest.settle e.node e.cost
  · exact (hrest.close e.node).expand e.node e.cost

/-- The node of an entry that passes has been taken up in all later searches. -/
theorem Passes.spent (hcost : ∀ a ∈ p.actions, 0 ≤ p.cost a) {i j : Nat} (hij : i < j) {e : Entry σ Rat}
    (h : Passes p i e) : Spent e.node e.cost (run p j) := by
  have hclose (rest : Queue (Entry σ Rat)) : Spent e.node e.cost (((run p i).taken rest).close e.node) :=
    ⟨e.cost, h.cost_eq hcost, le_refl _, .inl (by simp [Search.close])⟩
  have hnext : Spent e.node e.cost (run p (i + 1)) := by
    obtain ⟨rest, ⟨-, k⟩ | ⟨-, k⟩⟩ := h.run_succ hcost <;> rw [k]
    · exact hclose rest
    · exact (hclose rest).expand e.node e.cost
  obtain ⟨k, rfl⟩ := Nat.exists_eq_add_of_lt hij
  rw [show i + k + 1 = i + 1 + k by omega, run_add]
  exact iterate_induction (P := Spent e.node e.cost) (fun _ f rest _ hs => hs.turn rest f) hnext k

/-- A node is taken up again only at a lower cost. -/
theorem Passes.cost_lt (hcost : ∀ a ∈ p.actions, 0 ≤ p.cost a) {i j : Nat} (hij : i < j) {d e : Entry σ Rat}
    (hd : Passes p i d) (he : Passes p j e) (hn : e.node = d.node) : e.cost < d.cost := by
  obtain ⟨c, hc, -, hclosed⟩ := hd.spent hcost hij
  rw [← hn] at hc hclosed
  cases (he.cost_eq hcost).symm.trans hc
  exact hclosed.resolve_left (he.not_mem_closed hcost)

/-! ## Best nodes -/

theorem Records.best {turns : Nat} {n : σ} {c : Rat} (hcost : ∀ a ∈ p.actions, 0 ≤ p.cost a)
    (h : Records p turns n c) : (run p (turns + 1)).best = some (n, c) := by
  obtain ⟨e, hp, -, hd, rfl, rfl⟩ := h
  obtain ⟨rest, ⟨-, k⟩ | ⟨hd', -⟩⟩ := hp.run_succ hcost
  · rw [k]
    rfl
  · rw [hd] at hd'
    cases hd'

/-- A best node that is recorded later costs less. -/
theorem Records.cost_lt (hcost : ∀ a ∈ p.actions, 0 ≤ p.cost a) {i j : Nat} (hij : i < j) {m n : σ} {b c : Rat}
    (hm : Records p i m b) (hn : Records p j n c) : c < b := by
  obtain ⟨e, ⟨rest, -, -, ho⟩, -, -, -, rfl⟩ := hn
  rw [← not_le]
  intro hle
  have hout : (run p j).outbid e.cost = true :=
    (extends_run p hij).outbid (outbid_iff.2 ⟨m, b, hm.best hcost, hle⟩)
  rw [ho] at hout
  cases hout

omit [LawfulBEq σ] in
/-- The best node changes only when one is recorded. -/
theorem best_run_succ (p : Problem σ α Rat) (turns : Nat) :
    (run p (turns + 1)).best = (run p turns).best ∨
      ∃ n c, Records p turns n c ∧ (run p (turns + 1)).best = some (n, c) := by
  rw [run_add, iterate]
  cases hstep : step p (run p turns) with
  | none => exact .inl rfl
  | some t =>
    obtain ⟨e, rest, hq, rfl⟩ := step_eq_some_iff.1 hstep
    show (follow p ((run p turns).taken rest) e).best = _ ∨ ∃ n c, _ ∧ (follow p ((run p turns).taken rest) e).best = _
    rcases follow_cases p ((run p turns).taken rest) e with ⟨k, -⟩ | ⟨hs, ho, hc, ⟨hd, k⟩ | ⟨-, k⟩⟩ <;> rw [k]
    · exact .inl rfl
    · exact .inr ⟨e.node, e.cost, ⟨e, ⟨rest, hq, hs, ho⟩, hc, hd, rfl, rfl⟩, rfl⟩
    · exact .inl (best_expand p _ e.node e.cost)

end GoalPlanner.Search
