import GoalPlanner.Proofs.Search.Chain
import GoalPlanner.Proofs.Search.Turn
import GoalPlanner.Proofs.Search.Walk
import Mathlib

/-!
# Costs and links agree

With rational costs of which none is negative, the records of a search are grounded at all times (`Grounded`,
`grounded_run`): every node with a cost has a chain of links from the start, each link is a step of the problem, and
what the links cost together is no more than the cost of the node (`Grounded.way`). An entry that is not stale carries
the cost of its node, so a link is only ever replaced by one whose source lies below its target in cost; that keeps the
links free of cycles even where steps cost nothing (`Grounded.reach`).

The way found by a run is therefore a walk from the start to a node that is done (`Grounded.way?`).
-/

namespace GoalPlanner.Search

variable {σ α : Type} [BEq σ] [Hashable σ]

/-! ## The tests -/

section Tests

variable {s : Search σ α Rat}

theorem outbid_iff {c : Rat} : s.outbid c = true ↔ ∃ n b, s.best = some (n, b) ∧ b ≤ c := by
  unfold outbid
  cases s.best with
  | none => simp
  | some x => obtain ⟨n, b⟩ := x; simp

theorem improves_iff {n : σ} {c : Rat} : s.improves n c = true ↔ ∀ d, s.costs[n]? = some d → c < d := by
  unfold improves
  cases s.costs[n]? with
  | none => simp [Cost.bounded]
  | some d => simp

/-- A cost does not improve a node that costs no more. -/
theorem ne_of_improves {n x : σ} {c d : Rat} (hi : s.improves n c = true) (hx : s.costs[x]? = some d) (hle : d ≤ c) :
    n ≠ x := by
  rintro rfl
  exact absurd (improves_iff.1 hi d hx) (not_lt.2 hle)

theorem stale_eq_false_iff {e : Entry σ Rat} :
    s.stale e = false ↔ ∀ c, s.costs[e.node]? = some c → e.cost ≤ c := by
  unfold stale
  cases s.costs[e.node]? with
  | none => simp
  | some d => simp

/-- An entry that is not stale carries the cost of its node. -/
theorem cost_eq_of_not_stale {e : Entry σ Rat} (he : ∃ c, s.costs[e.node]? = some c ∧ c ≤ e.cost)
    (hs : s.stale e = false) : s.costs[e.node]? = some e.cost := by
  obtain ⟨c, hc, hle⟩ := he
  rw [hc, le_antisymm hle (stale_eq_false_iff.1 hs c hc)]

end Tests

section Fields

variable [LawfulBEq σ] (p : Problem σ α Rat) (s : Search σ α Rat) (m : σ) (a : α) (n : σ) (c : Rat)

theorem costs_reach (x : σ) : (s.reach p m a n c).costs[x]? = if n == x then some c else s.costs[x]? := by
  simp [reach, Std.HashMap.getElem?_insert]

theorem mem_closed_reach (x : σ) : x ∈ (s.reach p m a n c).closed ↔ n ≠ x ∧ x ∈ s.closed := by
  simp [reach]

omit [LawfulBEq σ] in
theorem mem_queue_reach (e : Entry σ Rat) : e ∈ (s.reach p m a n c).queue.toList ↔
    e = ⟨c + p.estimate n, p.label a, s.made, c, n⟩ ∨ e ∈ s.queue.toList := by
  simp only [reach, (Queue.toList_push _ _ _).mem_iff, List.mem_cons]

variable {s n c}

/-- The cost of no node rises when a node is reached at a lower cost. -/
theorem costs_reach_le (hi : s.improves n c = true) {x : σ} {d : Rat} (hx : s.costs[x]? = some d) :
    ∃ b, (s.reach p m a n c).costs[x]? = some b ∧ b ≤ d := by
  rw [costs_reach]
  split
  · rename_i hn
    rw [← eq_of_beq hn] at hx
    exact ⟨c, rfl, le_of_lt (improves_iff.1 hi d hx)⟩
  · exact ⟨d, hx, le_refl _⟩

end Fields

/-! ## Grounded searches -/

variable {p : Problem σ α Rat}

/-- The costs, links, entries and the best node of a search bear each other out. -/
structure Grounded (p : Problem σ α Rat) (s : Search σ α Rat) : Prop where
  start_cost : s.costs[p.start]? = some 0
  nonneg : ∀ {n : σ} {c : Rat}, s.costs[n]? = some c → 0 ≤ c
  /-- A link is a step of the problem, and it costs no more than what separates its ends. -/
  link : ∀ {n m : σ} {a : α}, s.links[n]? = some (m, a) → a ∈ p.actions ∧ p.next a m = some n ∧
    ∃ c d, s.costs[m]? = some c ∧ s.costs[n]? = some d ∧ c + p.cost a ≤ d
  chain : ∀ {n : σ} {c : Rat}, s.costs[n]? = some c → ∃ as, Chain s.links p.start n as
  queued : ∀ {e : Entry σ Rat}, e ∈ s.queue.toList → ∃ c, s.costs[e.node]? = some c ∧ c ≤ e.cost
  best : ∀ {n : σ} {b : Rat}, s.best = some (n, b) → p.done n = true ∧ ∃ c, s.costs[n]? = some c ∧ c ≤ b

namespace Grounded

variable {s : Search σ α Rat}

theorem taken (h : Grounded p s) {e : Entry σ Rat} {rest : Queue (Entry σ Rat)}
    (hq : s.queue.pop? Entry.before = some (e, rest)) : Grounded p (s.taken rest) :=
  { h with queued := fun hm => h.queued ((Queue.mem_toList_of_pop? hq).2 (Or.inr hm)) }

theorem close (h : Grounded p s) (n : σ) : Grounded p (s.close n) := { h with }

theorem settle (h : Grounded p s) {n : σ} {c : Rat} (hn : s.costs[n]? = some c) (hd : p.done n = true) :
    Grounded p (s.settle n c) :=
  { h with
    best := fun hb => by
      cases hb
      exact ⟨hd, c, hn, le_refl _⟩ }

/-- The actions of a chain lead from the start to its node, and cost no more than the node does. -/
theorem way (h : Grounded p s) {n : σ} {as : List α}
    (hc : Chain s.links p.start n as) {c : Rat} (hn : s.costs[n]? = some c) :
    p.after p.start as = some n ∧ p.total as ≤ c := by
  induction hc generalizing c with
  | root =>
    rw [h.start_cost] at hn
    cases hn
    exact ⟨rfl, le_refl _⟩
  | @link n m a as hl _ ih =>
    obtain ⟨-, hmn, d, c', hd, hc', hle⟩ := h.link hl
    rw [hn] at hc'
    cases hc'
    obtain ⟨hafter, htotal⟩ := ih hd
    refine ⟨?_, ?_⟩
    · rw [p.after_append, hafter]
      simpa [Problem.after] using hmn
    · rw [Problem.total_append, Problem.total_cons, Problem.total_nil]
      linarith

end Grounded

variable [LawfulBEq σ]

theorem grounded_init (p : Problem σ α Rat) : Grounded p (init p) where
  start_cost := by simp [init]
  nonneg h := by
    simp only [init, Std.HashMap.getElem?_insert] at h
    split at h
    · cases h; exact le_refl _
    · simp at h
  link h := by simp [init] at h
  chain {n c} h := by
    simp only [init, Std.HashMap.getElem?_insert] at h
    split at h
    · rename_i hn
      rw [← eq_of_beq hn]
      exact ⟨[], .root (by simp [init])⟩
    · simp at h
  queued {e} h := by
    simp only [init, (Queue.toList_push _ _ _).mem_iff, Queue.toList, List.mem_singleton] at h
    subst h
    exact ⟨0, by simp [init], le_refl _⟩
  best h := by simp [init] at h

namespace Grounded

variable {s : Search σ α Rat}

/-- The chain of a node runs through nodes that cost no more, so it does not notice a new link of a node that cost
more. -/
theorem chain_source (h : Grounded p s) (hcost : ∀ a ∈ p.actions, 0 ≤ p.cost a) {m n : σ} {a : α} {c : Rat}
    (hm : s.costs[m]? = some c) (hn : ∀ d, s.costs[n]? = some d → c < d) :
    ∃ as, Chain (s.links.insert n (m, a)) p.start m as := by
  obtain ⟨as, hch⟩ := h.chain hm
  refine ⟨as, hch.insert_of_closed (P := fun x => ∃ d, s.costs[x]? = some d ∧ d ≤ c) ?_ ?_ ⟨c, hm, le_refl _⟩⟩
  · rintro x y b ⟨d, hd, hdc⟩ hl
    obtain ⟨hb, -, e, d', he, hd', hle⟩ := h.link hl
    rw [hd] at hd'
    cases hd'
    have := hcost b hb
    exact ⟨e, he, by linarith⟩
  · rintro ⟨d, hd, hdc⟩
    have := hn d hd
    linarith

/-- After a node has been reached at a lower cost, every link still costs no more than what separates its ends. -/
theorem link_reach (h : Grounded p s) {m n : σ} {a : α} {c : Rat} (ha : a ∈ p.actions) (hm : s.costs[m]? = some c)
    (hnm : n ≠ m) (hnext : p.next a m = some n) (hi : s.improves n (c + p.cost a) = true) {x y : σ} {b : α}
    (hl : (s.reach p m a n (c + p.cost a)).links[x]? = some (y, b)) :
    b ∈ p.actions ∧ p.next b y = some x ∧
      ∃ d e, (s.reach p m a n (c + p.cost a)).costs[y]? = some d ∧
        (s.reach p m a n (c + p.cost a)).costs[x]? = some e ∧ d + p.cost b ≤ e := by
  rw [links_reach] at hl
  split at hl
  · rename_i hx
    cases hl
    rw [← eq_of_beq hx]
    refine ⟨ha, hnext, c, c + p.cost a, ?_, ?_, le_refl _⟩
    · rw [costs_reach, if_neg (by simpa using hnm)]
      exact hm
    · rw [costs_reach, if_pos (by simp)]
  · rename_i hx
    obtain ⟨hb, hyx, d, e, hd, he, hle⟩ := h.link hl
    obtain ⟨d', hd', hle'⟩ := costs_reach_le p m a hi hd
    refine ⟨hb, hyx, d', e, hd', ?_, by linarith⟩
    rw [costs_reach, if_neg hx]
    exact he

/-- Every node that has a cost after another is reached has a chain then: the new one through its source, the others
either as before or from where they meet the new one. -/
theorem chain_reach (h : Grounded p s) (hcost : ∀ a ∈ p.actions, 0 ≤ p.cost a) {m n : σ} {a : α} {c : Rat}
    (ha : a ∈ p.actions) (hm : s.costs[m]? = some c) (hi : s.improves n (c + p.cost a) = true) {x : σ} {d : Rat}
    (hx : (s.reach p m a n (c + p.cost a)).costs[x]? = some d) :
    ∃ as, Chain (s.reach p m a n (c + p.cost a)).links p.start x as := by
  have hn : ∀ e, s.costs[n]? = some e → c < e := fun e he => by
    have hpa := hcost a ha
    have hlt := improves_iff.1 hi e he
    linarith
  obtain ⟨as, hsource⟩ := h.chain_source hcost (a := a) hm hn
  rw [costs_reach] at hx
  split at hx
  · rename_i hnx
    rw [← eq_of_beq hnx]
    exact ⟨as ++ [a], .link (by simp [Search.reach]) hsource⟩
  · obtain ⟨bs, hb⟩ := h.chain hx
    exact hsource.insert hb

/-- A step from a node with its present cost to a node that it improves keeps a search grounded. -/
theorem reach (h : Grounded p s) (hcost : ∀ a ∈ p.actions, 0 ≤ p.cost a) {m n : σ} {a : α} {c : Rat}
    (ha : a ∈ p.actions) (hm : s.costs[m]? = some c) (hnext : p.next a m = some n)
    (hi : s.improves n (c + p.cost a) = true) : Grounded p (s.reach p m a n (c + p.cost a)) := by
  have hc : 0 ≤ c := h.nonneg hm
  have hpa : 0 ≤ p.cost a := hcost a ha
  have hnm : n ≠ m := ne_of_improves hi hm (by linarith)
  have hstart : n ≠ p.start := ne_of_improves hi h.start_cost (by linarith)
  constructor
  case start_cost =>
    rw [costs_reach, if_neg (by simpa using hstart)]
    exact h.start_cost
  case nonneg =>
    intro x d hx
    rw [costs_reach] at hx
    split at hx
    · cases hx
      linarith
    · exact h.nonneg hx
  case link => exact h.link_reach ha hm hnm hnext hi
  case chain => exact h.chain_reach hcost ha hm hi
  case queued =>
    intro e he
    rcases (mem_queue_reach p s m a n _ e).1 he with rfl | he
    · exact ⟨c + p.cost a, by rw [costs_reach, if_pos (by simp)], le_refl _⟩
    · obtain ⟨d, hd, hle⟩ := h.queued he
      obtain ⟨b, hb, hbd⟩ := costs_reach_le p m a hi hd
      exact ⟨b, hb, le_trans hbd hle⟩
  case best =>
    intro x b hb
    obtain ⟨hd, d, hx, hle⟩ := h.best hb
    obtain ⟨e, he, hed⟩ := costs_reach_le p m a hi hx
    exact ⟨hd, e, he, le_trans hed hle⟩

/-- An attempt from a node with its present cost keeps a search grounded, and the cost of that node. -/
theorem attempt (h : Grounded p s) (hcost : ∀ a ∈ p.actions, 0 ≤ p.cost a) {m : σ} {a : α} {c : Rat}
    (ha : a ∈ p.actions) (hm : s.costs[m]? = some c) :
    Grounded p (attempt p m c s a) ∧ (attempt p m c s a).costs[m]? = some c := by
  rcases attempt_cases p m c s a with ⟨e, -⟩ | ⟨n, hn, hnm, -, hi, e⟩ <;> rw [e]
  · exact ⟨h, hm⟩
  · refine ⟨h.reach hcost ha hm hn hi, ?_⟩
    rw [costs_reach, hnm]
    exact hm

theorem expand (h : Grounded p s) (hcost : ∀ a ∈ p.actions, 0 ≤ p.cost a) {m : σ} {c : Rat}
    (hm : s.costs[m]? = some c) : Grounded p (s.expand p m c) :=
  (expand_induction (P := fun _ t => Grounded p t ∧ t.costs[m]? = some c)
    (fun _ _ _ ha ht => ht.1.attempt hcost ha ht.2) ⟨h, hm⟩).1

end Grounded

/-- Every turn keeps a search grounded. -/
theorem grounded_turn (hcost : ∀ a ∈ p.actions, 0 ≤ p.cost a) {s : Search σ α Rat} {e : Entry σ Rat}
    {rest : Queue (Entry σ Rat)} (hq : s.queue.pop? Entry.before = some (e, rest)) (h : Grounded p s) :
    Grounded p (follow p (s.taken rest) e) := by
  have he := h.queued ((Queue.mem_toList_of_pop? hq).2 (Or.inl rfl))
  rcases follow_cases p (s.taken rest) e with ⟨k, -⟩ | ⟨hs, -, -, ⟨hd, k⟩ | ⟨-, k⟩⟩ <;> rw [k]
  · exact h.taken hq
  · exact (h.taken hq).settle (cost_eq_of_not_stale he hs) hd
  · exact ((h.taken hq).close e.node).expand hcost (cost_eq_of_not_stale he hs)

/-- Every run is grounded. -/
theorem grounded_run (hcost : ∀ a ∈ p.actions, 0 ≤ p.cost a) (limit : Nat) : Grounded p (run p limit) :=
  run_induction (grounded_init p) (fun _ _ _ hq h => grounded_turn hcost hq h) limit

/-! ## The way found -/

/-- The way found leads from the start to the best node, and costs no more than that node did. -/
theorem Grounded.way? {s : Search σ α Rat} (h : Grounded p s) {n : σ} {b : Rat} (hb : s.best = some (n, b)) :
    ∃ way, s.way? = some way ∧ p.done n = true ∧ p.after p.start way = some n ∧ p.total way ≤ b := by
  obtain ⟨hd, c, hc, hle⟩ := h.best hb
  obtain ⟨as, hch⟩ := h.chain hc
  obtain ⟨hafter, htotal⟩ := h.way hch hc
  exact ⟨as, way?_of_chain hb hch, hd, hafter, le_trans htotal hle⟩

/-- The way found, read off with fuel of which something is left over. -/
theorem Grounded.way?_of_readOff {s : Search σ α Rat} (h : Grounded p s) {fuel : Nat} {n : σ} {b : Rat} {way : List α}
    {e : Bool} (hr : s.readOff fuel = (some (n, b, way), e)) (hf : way.length < fuel) : s.way? = some way := by
  simp only [readOff, Prod.mk.injEq, Option.map_eq_some_iff, Prod.exists] at hr
  obtain ⟨⟨_, _, hb, rfl, rfl, rfl⟩, -⟩ := hr
  obtain ⟨-, c, hc, -⟩ := h.best hb
  obtain ⟨as, hch⟩ := h.chain hc
  rw [wayTo_of_length_lt hch hf, way?_of_chain hb hch]

end GoalPlanner.Search
