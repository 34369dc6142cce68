import GoalPlanner.Proofs.Search.Grounded
import Mathlib

/-!
# What a search has covered

A search covers a node at a cost if it has reached the node at no more, or knows a node that is done and costs no more
(`covers`). At all times, a reached node that is not closed waits in the queue with its cost, and a closed one has had
all its steps covered, unless the best node found beats it (`Covered`, `covered_run`). No law of the estimate is needed:
a node is closed only by an entry that carries its cost, and a cheaper way to it opens it again.

When the queue has run empty, all walks from the start are covered (`Covered.covers_walk`), so the best node costs no
more than any walk to a node that is done, and without a best node there is no such walk (`Covered.best_le`).
-/

namespace GoalPlanner.Search

variable {σ α : Type} [BEq σ] [Hashable σ] {p : Problem σ α Rat} {s t : Search σ α Rat}

/-! ## Later searches know no less -/

/-- A node has been reached at no more than a cost, or a node that is done has been. -/
def covers (s : Search σ α Rat) (n : σ) (c : Rat) : Prop :=
  s.outbid c = true ∨ ∃ d, s.costs[n]? = some d ∧ d ≤ c

/-- What one search has found out is no worse in another. -/
structure Extends (s t : Search σ α Rat) : Prop where
  costs : ∀ {n : σ} {c : Rat}, s.costs[n]? = some c → ∃ d, t.costs[n]? = some d ∧ d ≤ c
  outbid : ∀ {c : Rat}, s.outbid c = true → t.outbid c = true

theorem outbid_mono {c d : Rat} (h : s.outbid c = true) (hle : c ≤ d) : s.outbid d = true := by
  obtain ⟨n, b, hb, hbc⟩ := outbid_iff.1 h
  exact outbid_iff.2 ⟨n, b, hb, le_trans hbc hle⟩

theorem covers_mono {n : σ} {c d : Rat} (h : s.covers n c) (hle : c ≤ d) : s.covers n d := by
  rcases h with h | ⟨b, hb, hbc⟩
  · exact Or.inl (outbid_mono h hle)
  · exact Or.inr ⟨b, hb, le_trans hbc hle⟩

theorem Extends.covers (h : Extends s t) {n : σ} {c : Rat} (k : s.covers n c) : t.covers n c := by
  rcases k with k | ⟨d, hd, hdc⟩
  · exact Or.inl (h.outbid k)
  · obtain ⟨b, hb, hbd⟩ := h.costs hd
    exact Or.inr ⟨b, hb, le_trans hbd hdc⟩

/-- A node that is done and not outbid makes a better best node. -/
theorem extends_settle {n : σ} {c : Rat} (h : s.outbid c = false) : Extends (s.close n) (s.settle n c) where
  costs h := ⟨_, h, le_refl _⟩
  outbid {d} hd := by
    refine outbid_iff.2 ⟨n, c, rfl, le_of_not_gt fun hlt => ?_⟩
    have : s.outbid c = true := outbid_mono hd (le_of_lt hlt)
    rw [this] at h
    cases h

theorem extends_reach [LawfulBEq σ] {m n : σ} {a : α} {c : Rat} (hi : s.improves n c = true) :
    Extends s (s.reach p m a n c) where
  costs h := costs_reach_le p m a hi h
  outbid h := h

/-! ## Covered searches -/

/-- The steps of a node by some actions are covered, from a cost of the node; a node that is done needs none, but then
the best node costs no more. -/
structure Followed (p : Problem σ α Rat) (s : Search σ α Rat) (n : σ) (c : Rat) (as : List α) : Prop where
  done : p.done n = true → s.outbid c = true
  steps : p.done n = false → ∀ a ∈ as, ∀ m, p.next a n = some m → s.covers m (c + p.cost a)

/-- A node waits in the queue with a cost, or need not. -/
def Waiting (s : Search σ α Rat) (n : σ) (c : Rat) : Prop :=
  s.outbid c = true ∨ ∃ e ∈ s.queue.toList, e.node = n ∧ e.cost = c

/-- Every reached node waits or is closed with all its steps covered. -/
structure Covered (p : Problem σ α Rat) (s : Search σ α Rat) : Prop where
  waiting : ∀ {n : σ} {c : Rat}, s.costs[n]? = some c → n ∉ s.closed → Waiting s n c
  followed : ∀ {n : σ} {c : Rat}, s.costs[n]? = some c → n ∈ s.closed → Followed p s n c p.actions

/-- A search while a node is being expanded: the steps of this node by the actions tried so far are covered. -/
structure Expanding (p : Problem σ α Rat) (n : σ) (c : Rat) (tried : List α) (s : Search σ α Rat) : Prop where
  waiting : ∀ {m : σ} {d : Rat}, s.costs[m]? = some d → m ∉ s.closed → Waiting s m d
  followed : ∀ {m : σ} {d : Rat}, s.costs[m]? = some d → m ∈ s.closed → m ≠ n → Followed p s m d p.actions
  cost : s.costs[n]? = some c
  steps : ∀ a ∈ tried, ∀ m, p.next a n = some m → s.covers m (c + p.cost a)

theorem Followed.mono {n : σ} {c : Rat} {as : List α} (h : Followed p s n c as) (k : Extends s t) :
    Followed p t n c as where
  done hd := k.outbid (h.done hd)
  steps hd a ha m hm := k.covers (h.steps hd a ha m hm)

/-- An expanded node whose steps are all covered makes the search covered again. -/
theorem Expanding.covered {n : σ} {c : Rat} {tried : List α} (h : Expanding p n c tried s)
    (hf : Followed p s n c p.actions) : Covered p s where
  waiting := h.waiting
  followed {m d} hm hc := by
    by_cases hmn : m = n
    · subst hmn
      cases hm.symm.trans h.cost
      exact hf
    · exact h.followed hm hc hmn

/-- A node that is done becomes the best one instead of being expanded. -/
theorem Expanding.settle {n : σ} {c : Rat} {tried : List α} (h : Expanding p n c tried (s.close n))
    (ho : s.outbid c = false) : Expanding p n c tried (s.settle n c) where
  waiting hm hc := (h.waiting hm hc).imp (extends_settle ho).outbid id
  followed hm hc hmn := (h.followed hm hc hmn).mono (extends_settle ho)
  cost := h.cost
  steps a ha m hm := (extends_settle ho).covers (h.steps a ha m hm)

/-- Taking an entry that is dropped loses no waiting node. -/
theorem Covered.drop (h : Covered p s) {e : Entry σ Rat} {rest : Queue (Entry σ Rat)}
    (hq : s.queue.pop? Entry.before = some (e, rest))
    (hd : s.stale e = true ∨ s.outbid e.cost = true ∨ e.node ∈ s.closed) : Covered p (s.taken rest) where
  waiting {n c} hn hc := by
    have hn : s.costs[n]? = some c := hn
    rcases h.waiting hn hc with ho | ⟨d, hm, hdn, hdc⟩
    · exact Or.inl ho
    · rcases (Queue.mem_toList_of_pop? hq).1 hm with rfl | hm
      · rcases hd with hd | hd | hd
        · rw [← Bool.not_eq_false, stale_eq_false_iff, hdn, hdc] at hd
          exact absurd (fun b hb => by rw [hn] at hb; cases hb; exact le_refl _) hd
        · exact Or.inl (hdc ▸ hd)
        · exact absurd (hdn ▸ hd) hc
      · exact Or.inr ⟨d, hm, hdn, hdc⟩
  followed hn hc := (h.followed hn hc).mono ⟨fun h => ⟨_, h, le_refl _⟩, fun h => h⟩

variable [LawfulBEq σ]

/-- Reaching a node other than the one that is expanded. -/
theorem Expanding.reach {n m : σ} {c d : Rat} {a : α} {tried : List α} (h : Expanding p n c tried s) (hmn : m ≠ n)
    (hi : s.improves m d = true) : Expanding p n c tried (s.reach p n a m d) := by
  have hext : Extends s (s.reach p n a m d) := extends_reach hi
  constructor
  · intro x b hx hc
    rw [costs_reach] at hx
    split at hx
    · rename_i he
      cases hx
      exact Or.inr ⟨_, (mem_queue_reach ..).2 (Or.inl rfl), eq_of_beq he, rfl⟩
    · rename_i he
      rw [mem_closed_reach] at hc
      rcases h.waiting hx fun hx => hc ⟨by simpa using he, hx⟩ with ho | ⟨e, hq, hn, hb⟩
      · exact Or.inl (hext.outbid ho)
      · exact Or.inr ⟨e, (mem_queue_reach ..).2 (Or.inr hq), hn, hb⟩
  · intro x b hx hc hxn
    rw [mem_closed_reach] at hc
    rw [costs_reach, if_neg (by simpa using hc.1)] at hx
    exact (h.followed hx hc.2 hxn).mono hext
  · rw [costs_reach, if_neg (by simpa using hmn)]
    exact h.cost
  · intro b hb x hx
    exact hext.covers (h.steps b hb x hx)

/-- After an attempt, one more step is covered. -/
theorem Expanding.attempt {n : σ} {c : Rat} {tried : List α} (h : Expanding p n c tried s) {a : α}
    (ha : 0 ≤ p.cost a) : Expanding p n c (tried ++ [a]) (attempt p n c s a) := by
  -- what remains is that the step by `a` is covered
  have last {t : Search σ α Rat} (ht : Expanding p n c tried t)
      (k : ∀ m, p.next a n = some m → t.covers m (c + p.cost a)) : Expanding p n c (tried ++ [a]) t :=
    { ht with
      steps := fun b hb m hm => by
        rcases List.mem_append.1 hb with hb | hb
        · exact ht.steps b hb m hm
        · cases List.mem_singleton.1 hb
          exact k m hm }
  rcases attempt_cases p n c s a with ⟨e, hidle⟩ | ⟨m, hm, hmn, -, hi, e⟩ <;> rw [e]
  · refine last h fun m hm => ?_
    rcases hidle m hm with hmn | ho | hi
    · exact Or.inr ⟨c, by rw [eq_of_beq hmn, h.cost], by linarith⟩
    · exact Or.inl ho
    · rw [← Bool.not_eq_true, improves_iff] at hi
      simp only [not_forall, not_lt] at hi
      obtain ⟨d, hd, hle⟩ := hi
      exact Or.inr ⟨d, hd, hle⟩
  · refine last (h.reach (by simpa using hmn) hi) fun k hk => ?_
    rw [hm] at hk
    cases hk
    exact Or.inr ⟨_, by rw [costs_reach, if_pos (by simp)], le_refl _⟩

theorem covered_init (p : Problem σ α Rat) : Covered p (init p) where
  waiting {n c} hn _ := by
    simp only [init, Std.HashMap.getElem?_insert] at hn
    split at hn
    · rename_i he
      cases hn
      refine Or.inr ⟨⟨p.estimate p.start, "", 0, 0, p.start⟩, ?_, eq_of_beq he, rfl⟩
      simp [init, (Queue.toList_push _ _ _).mem_iff]
    · simp at hn
  followed _ hc := by simp [init] at hc

/-- Taking an entry with the cost of its node, and closing the node. -/
theorem Covered.close (h : Covered p s) {e : Entry σ Rat} {rest : Queue (Entry σ Rat)}
    (hq : s.queue.pop? Entry.before = some (e, rest)) (hc : s.costs[e.node]? = some e.cost) :
    Expanding p e.node e.cost [] ((s.taken rest).close e.node) where
  waiting {m d} hm hmc := by
    simp only [Search.close, taken, Std.HashSet.mem_insert, not_or] at hmc
    rcases h.waiting hm hmc.2 with ho | ⟨f, hf, hfm, hfd⟩
    · exact Or.inl ho
    · rcases (Queue.mem_toList_of_pop? hq).1 hf with rfl | hf
      · exact absurd (by simpa using hfm) hmc.1
      · exact Or.inr ⟨f, hf, hfm, hfd⟩
  followed {m d} hm hmc hne := by
    simp only [Search.close, taken, Std.HashSet.mem_insert, beq_iff_eq] at hmc
    have hmc : m ∈ s.closed := hmc.resolve_left (Ne.symm hne)
    exact (h.followed hm hmc).mono ⟨fun h => ⟨_, h, le_refl _⟩, fun h => h⟩
  cost := hc
  steps := by simp

/-- Every turn keeps a search covered. -/
theorem covered_turn (hcost : ∀ a ∈ p.actions, 0 ≤ p.cost a) {e : Entry σ Rat} {rest : Queue (Entry σ Rat)}
    (hq : s.queue.pop? Entry.before = some (e, rest)) (hg : Grounded p s) (h : Covered p s) :
    Covered p (follow p (s.taken rest) e) := by
  have he := hg.queued ((Queue.mem_toList_of_pop? hq).2 (Or.inl rfl))
  rcases follow_cases p (s.taken rest) e with ⟨k, hd⟩ | ⟨hs, ho, -, hd⟩
  · rw [k]
    exact h.drop hq hd
  have hx := h.close hq (cost_eq_of_not_stale he hs)
  rcases hd with ⟨hd, k⟩ | ⟨hd, k⟩ <;> rw [k]
  · have hbest : ((s.taken rest).settle e.node e.cost).outbid e.cost = true :=
      outbid_iff.2 ⟨e.node, e.cost, rfl, le_refl _⟩
    exact (hx.settle ho).covered ⟨fun _ => hbest, fun hn => absurd hn (by simp [hd])⟩
  · have hall : Expanding p e.node e.cost p.actions (((s.taken rest).close e.node).expand p e.node e.cost) :=
      expand_induction (fun _ a _ ha ht => ht.attempt (hcost a ha)) hx
    exact hall.covered ⟨fun hn => absurd hn (by simp [hd]), fun _ => hall.steps⟩

/-- Every run is covered. -/
theorem covered_run (hcost : ∀ a ∈ p.actions, 0 ≤ p.cost a) (limit : Nat) : Covered p (run p limit) :=
  (run_induction (P := fun s => Grounded p s ∧ Covered p s) ⟨grounded_init p, covered_init p⟩
    (fun _ _ _ hq h => ⟨grounded_turn hcost hq h.1, covered_turn hcost hq h.1 h.2⟩) limit).2

/-! ## The queue has run empty -/

omit [LawfulBEq σ]

/-- With nothing waiting, a node that is reached and not outbid is closed. -/
theorem Covered.outbid_or_followed (h : Covered p s) (hq : s.queue.toList = []) {n : σ} {c : Rat}
    (hn : s.covers n c) : s.outbid c = true ∨ ∃ d, d ≤ c ∧ Followed p s n d p.actions := by
  rcases hn with ho | ⟨d, hd, hle⟩
  · exact Or.inl ho
  · by_cases hc : n ∈ s.closed
    · exact Or.inr ⟨d, hle, h.followed hd hc⟩
    · rcases h.waiting hd hc with ho | ⟨e, he, -, -⟩
      · exact Or.inl (outbid_mono ho hle)
      · rw [hq] at he
        cases he

/-- With nothing waiting, every walk from a covered node is covered. -/
theorem Covered.covers_walk (h : Covered p s) (hq : s.queue.toList = []) (hcost : ∀ a ∈ p.actions, 0 ≤ p.cost a)
    {as : List α} (has : ∀ a ∈ as, a ∈ p.actions) {n m : σ} {c : Rat} (hn : s.covers n c)
    (hw : p.after n as = some m) : s.covers m (c + p.total as) := by
  induction as generalizing n c with
  | nil =>
    cases hw
    simpa using hn
  | cons a as ih =>
    obtain ⟨k, hk, hw⟩ := Problem.after_cons_eq_some_iff.1 hw
    have ha : a ∈ p.actions := has a List.mem_cons_self
    have has' : ∀ b ∈ as, b ∈ p.actions := fun b hb => has b (List.mem_cons_of_mem _ hb)
    have hpa : 0 ≤ p.cost a := hcost a ha
    have htotal : 0 ≤ p.total as := Problem.total_nonneg fun b hb => hcost b (has' b hb)
    rw [Problem.total_cons]
    rcases h.outbid_or_followed hq hn with ho | ⟨d, hle, hf⟩
    · exact Or.inl (outbid_mono ho (by linarith))
    · cases hd : p.done n with
      | true => exact Or.inl (outbid_mono (hf.done hd) (by linarith))
      | false => exact covers_mono (ih has' (hf.steps hd a ha k hk) hw) (by linarith)

/-- With nothing waiting, the best node costs no more than any walk from the start to a node that is done. -/
theorem Covered.best_le (h : Covered p s) (hg : Grounded p s) (hq : s.queue.toList = [])
    (hcost : ∀ a ∈ p.actions, 0 ≤ p.cost a) {as : List α} (has : ∀ a ∈ as, a ∈ p.actions) {n : σ}
    (hw : p.after p.start as = some n) (hd : p.done n = true) : ∃ m b, s.best = some (m, b) ∧ b ≤ p.total as := by
  have hn := h.covers_walk hq hcost has (Or.inr ⟨0, hg.start_cost, le_refl _⟩) hw
  rw [zero_add] at hn
  rcases h.outbid_or_followed hq hn with ho | ⟨d, hle, hf⟩
  · exact outbid_iff.1 ho
  · exact outbid_iff.1 (outbid_mono (hf.done hd) hle)

end GoalPlanner.Search
