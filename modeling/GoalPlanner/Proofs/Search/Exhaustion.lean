import GoalPlanner.Proofs.Search.Limit
import Mathlib

/-!
# Every search comes to an end

Where no step leaves a finite set of nodes (`Problem.Confined`) and no cost is negative, a search with rational costs
runs out of entries (`exists_run_eq_nil`). There is no bound for each node: a closed node is reopened as often as a
cheaper way to it turns up. But all costs are multiples of one unit (`exists_unit`), so the cost of a node, counted in
units, can fall only so often, and it falls with every entry that is pushed. Hence every turn lowers the costs of the
nodes, or leaves them alone and takes an entry from the queue (`measure_turn_lt`).
-/

namespace GoalPlanner

/-- A set with the start that no step leaves. -/
structure Problem.Confined {σ α κ : Type} (p : Problem σ α κ) (N : Set σ) : Prop where
  start : p.start ∈ N
  next : ∀ a ∈ p.actions, ∀ n ∈ N, ∀ m, p.next a n = some m → m ∈ N

namespace Search

/-! ## Units -/

/-- A cost is a multiple of one `u`-th. -/
def IsMultiple (u : Nat) (c : Rat) : Prop := ∃ k : Nat, c * u = k

theorem IsMultiple.zero (u : Nat) : IsMultiple u 0 := ⟨0, by simp⟩

theorem IsMultiple.add {u : Nat} {c d : Rat} (hc : IsMultiple u c) (hd : IsMultiple u d) : IsMultiple u (c + d) := by
  obtain ⟨k, hk⟩ := hc
  obtain ⟨l, hl⟩ := hd
  exact ⟨k + l, by rw [add_mul, hk, hl, Nat.cast_add]⟩

/-- Finitely many costs are multiples of one unit. -/
theorem exists_unit (cs : List Rat) (h : ∀ c ∈ cs, 0 ≤ c) : ∃ u : Nat, 0 < u ∧ ∀ c ∈ cs, IsMultiple u c := by
  induction cs with
  | nil => exact ⟨1, Nat.one_pos, by simp⟩
  | cons c cs ih =>
    obtain ⟨u, hu, hcs⟩ := ih fun d hd => h d (List.mem_cons_of_mem _ hd)
    have hc : ((c.num.toNat : Int) : Rat) = c * c.den := by
      rw [Int.toNat_of_nonneg (Rat.num_nonneg.2 (h c List.mem_cons_self)), Rat.mul_den_eq_num]
    refine ⟨c.den * u, Nat.mul_pos c.den_pos hu, fun d hd => ?_⟩
    rcases List.mem_cons.1 hd with rfl | hd
    · refine ⟨d.num.toNat * u, ?_⟩
      push_cast at hc ⊢
      rw [hc, mul_assoc]
    · obtain ⟨k, hk⟩ := hcs d hd
      refine ⟨c.den * k, ?_⟩
      push_cast
      rw [← hk]
      ring

/-! ## Heights -/

variable {σ α : Type} [BEq σ] [Hashable σ] {p : Problem σ α Rat} {s t : Search σ α Rat} {N : Set σ} {u : Nat}

/-- The cost of a node in units; a node that has not been reached is as high as can be. -/
def height (u : Nat) (s : Search σ α Rat) (n : σ) : WithTop Nat :=
  match s.costs[n]? with
  | some c => ((⌊c * u⌋₊ : Nat) : WithTop Nat)
  | none => ⊤

/-- Only nodes of a set have been reached, at costs that are multiples of a unit. -/
def Counted (N : Set σ) (u : Nat) (s : Search σ α Rat) : Prop :=
  ∀ n c, s.costs[n]? = some c → n ∈ N ∧ IsMultiple u c

/-- What every turn lowers: the heights of the nodes, or else the number of entries. -/
def measure (N : Set σ) (u : Nat) (s : Search σ α Rat) : (N → WithTop Nat) ×ₗ Nat :=
  toLex (fun n => s.height u n, s.queue.toList.length)

theorem height_eq {n : σ} {c : Rat} {k : Nat} (hn : s.costs[n]? = some c) (hk : c * u = k) : s.height u n = k := by
  simp only [height, hn, hk, Nat.floor_natCast]

theorem height_congr (h : t.costs = s.costs) (n : σ) : t.height u n = s.height u n := by
  rw [height, height, h]

variable [LawfulBEq σ]

theorem counted_init (hs : p.start ∈ N) : Counted N u (init p) := by
  intro n c hn
  simp only [init, Std.HashMap.getElem?_insert] at hn
  split at hn
  · rename_i he
    cases hn
    exact ⟨eq_of_beq he ▸ hs, .zero u⟩
  · simp at hn

theorem Counted.reach (h : Counted N u s) {n : σ} {c : Rat} (hn : n ∈ N) (hc : IsMultiple u c) (m : σ) (a : α) :
    Counted N u (s.reach p m a n c) := by
  intro x d hx
  rw [costs_reach] at hx
  split at hx
  · rename_i he
    cases hx
    exact ⟨eq_of_beq he ▸ hn, hc⟩
  · exact h x d hx

/-- A node that is reached at a lower cost becomes lower, and no other one changes. -/
theorem heights_reach_lt (h : Counted N u s) (hu : 0 < u) {n : σ} {c : Rat} (hn : n ∈ N) (hc : IsMultiple u c)
    (hi : s.improves n c = true) (m : σ) (a : α) :
    (fun x : N => (s.reach p m a n c).height u x) < fun x : N => s.height u x := by
  have hnew : (s.reach p m a n c).height u n < s.height u n := by
    obtain ⟨k, hk⟩ := hc
    rw [height_eq (c := c) (by rw [costs_reach, if_pos (by simp)]) hk]
    cases hd : s.costs[n]? with
    | none =>
      rw [height, hd]
      exact WithTop.coe_lt_top k
    | some d =>
      obtain ⟨l, hl⟩ := (h n d hd).2
      have hlt : c * u < d * u := mul_lt_mul_of_pos_right (improves_iff.1 hi d hd) (by exact_mod_cast hu)
      rw [hk, hl] at hlt
      rw [height_eq hd hl]
      exact_mod_cast hlt
  refine Pi.lt_def.2 ⟨fun x => ?_, ⟨n, hn⟩, hnew⟩
  show (s.reach p m a n c).height u x ≤ s.height u x
  by_cases hx : n = x
  · rw [← hx]
    exact le_of_lt hnew
  · rw [height, height, costs_reach, if_neg (by simpa using hx)]

/-! ## Every turn lowers the measure -/

/-- A search in the course of an expansion, against the search in front of the turn: a node has been reached and some
height is lower, or nothing has happened yet. -/
structure Sinking (N : Set σ) (u : Nat) (s : Search σ α Rat) (rest : Queue (Entry σ Rat)) (n : σ) (c : Rat)
    (t : Search σ α Rat) : Prop where
  counted : Counted N u t
  cost : t.costs[n]? = some c
  lower : (fun x : N => t.height u x) < (fun x : N => s.height u x) ∨ t.costs = s.costs ∧ t.queue = rest

theorem Sinking.attempt {rest : Queue (Entry σ Rat)} {n : σ} {c : Rat} (h : Sinking N u s rest n c t) (hu : 0 < u)
    (hN : p.Confined N) (hcost : ∀ a ∈ p.actions, IsMultiple u (p.cost a)) {a : α} (ha : a ∈ p.actions) :
    Sinking N u s rest n c (attempt p n c t a) := by
  rcases attempt_cases p n c t a with ⟨e, -⟩ | ⟨m, hm, hmn, -, hi, e⟩ <;> rw [e]
  · exact h
  · obtain ⟨hn, hc⟩ := h.counted n c h.cost
    have hmN : m ∈ N := hN.next a ha n hn m hm
    have hmc : IsMultiple u (c + p.cost a) := hc.add (hcost a ha)
    refine ⟨h.counted.reach hmN hmc n a, by rw [costs_reach, hmn]; exact h.cost, Or.inl ?_⟩
    have hlt := heights_reach_lt (p := p) h.counted hu hmN hmc hi n a
    rcases h.lower with hl | ⟨hcosts, -⟩
    · exact hlt.trans hl
    · simpa only [height_congr hcosts] using hlt

omit [LawfulBEq σ] in
/-- A search with lower heights, or with the same and fewer entries, has a lower measure. -/
theorem measure_lt (h : (fun x : N => t.height u x) < (fun x : N => s.height u x) ∨
    t.costs = s.costs ∧ t.queue.toList.length < s.queue.toList.length) : measure N u t < measure N u s := by
  rw [measure, measure, Prod.Lex.toLex_lt_toLex]
  rcases h with h | ⟨hcosts, hq⟩
  · exact Or.inl h
  · exact Or.inr ⟨funext fun x => height_congr hcosts x, hq⟩

/-- Every turn lowers the measure. -/
theorem measure_turn_lt (hu : 0 < u) (hN : p.Confined N) (hcost : ∀ a ∈ p.actions, IsMultiple u (p.cost a))
    {e : Entry σ Rat} {rest : Queue (Entry σ Rat)} (hq : s.queue.pop? Entry.before = some (e, rest))
    (hg : Grounded p s) (h : Counted N u s) :
    Counted N u (follow p (s.taken rest) e) ∧ measure N u (follow p (s.taken rest) e) < measure N u s := by
  have hshort : rest.toList.length < s.queue.toList.length := by
    rw [(Queue.toList_of_pop? hq).length_eq, List.length_cons]
    exact Nat.lt_succ_self _
  have he := hg.queued ((Queue.mem_toList_of_pop? hq).2 (Or.inl rfl))
  rcases follow_cases p (s.taken rest) e with ⟨k, -⟩ | ⟨hs, -, -, ⟨-, k⟩ | ⟨-, k⟩⟩ <;> rw [k]
  · exact ⟨h, measure_lt (Or.inr ⟨rfl, hshort⟩)⟩
  · exact ⟨h, measure_lt (Or.inr ⟨rfl, hshort⟩)⟩
  · have hsink : Sinking N u s rest e.node e.cost (((s.taken rest).close e.node).expand p e.node e.cost) :=
      expand_induction (P := fun _ t => Sinking N u s rest e.node e.cost t)
        (fun _ a _ ha ht => ht.attempt hu hN hcost ha) ⟨h, cost_eq_of_not_stale he hs, Or.inr ⟨rfl, rfl⟩⟩
    refine ⟨hsink.counted, measure_lt (hsink.lower.imp_right fun ⟨hcosts, hrest⟩ => ⟨hcosts, ?_⟩)⟩
    rw [hrest]
    exact hshort

/-! ## The end -/

/-- From a grounded search, enough turns leave nothing waiting. -/
theorem exists_iterate_eq_nil [Finite N] (hu : 0 < u) (hN : p.Confined N) (hnonneg : ∀ a ∈ p.actions, 0 ≤ p.cost a)
    (hcost : ∀ a ∈ p.actions, IsMultiple u (p.cost a)) (hg : Grounded p s) (h : Counted N u s) :
    ∃ limit, (iterate p limit s).queue.toList = [] := by
  induction s using (InvImage.wf (measure N u) wellFounded_lt).induction with
  | _ s ih =>
    cases hstep : step p s with
    | none => exact ⟨0, step_eq_none_iff.1 hstep⟩
    | some t =>
      obtain ⟨e, rest, hq, rfl⟩ := step_eq_some_iff.1 hstep
      obtain ⟨hcount, hlt⟩ := measure_turn_lt hu hN hcost hq hg h
      obtain ⟨limit, hlimit⟩ := ih _ hlt (grounded_turn hnonneg hq hg) hcount
      exact ⟨limit + 1, by rw [iterate, hstep]; exact hlimit⟩

/-- A search through finitely many nodes runs out of entries. -/
theorem exists_run_eq_nil [Finite N] (hN : p.Confined N) (hnonneg : ∀ a ∈ p.actions, 0 ≤ p.cost a) :
    ∃ limit, (run p limit).queue.toList = [] := by
  obtain ⟨u, hu, hunit⟩ := exists_unit (p.actions.map p.cost) (by simpa using hnonneg)
  exact exists_iterate_eq_nil hu hN hnonneg (fun a ha => hunit _ (List.mem_map_of_mem ha)) (grounded_init p)
    (counted_init hN.start)

end Search

end GoalPlanner
