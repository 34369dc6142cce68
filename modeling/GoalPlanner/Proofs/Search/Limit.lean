import GoalPlanner.Proofs.Search.Covered
import Mathlib

/-!
# Longer runs

A run with a higher limit goes on where one with a lower limit stopped (`run_add`), and once nothing is waiting, a
higher limit changes nothing (`run_of_le`). No turn forgets anything (`extends_turn`), so a search that went on knows
no less than before (`extends_run`): a best node is never lost, and the cost at which it was found never rises
(`best_run_le`).

This says nothing of the way to the best node. Its links may have become cheaper since that node was found, and the
next best node need only be cheaper than the cost that was recorded.
-/

namespace GoalPlanner.Search

/-! ## Going on -/

section

variable {σ α κ : Type} [Cost κ] [BEq σ] [Hashable σ]

theorem iterate_add (p : Problem σ α κ) (m n : Nat) (s : Search σ α κ) :
    iterate p (m + n) s = iterate p n (iterate p m s) := by
  induction m generalizing s with
  | zero => rw [Nat.zero_add, iterate]
  | succ m ih =>
    rw [Nat.succ_add, iterate, iterate]
    cases h : step p s with
    | none => exact (iterate_of_queue_eq_nil p n (step_eq_none_iff.1 h)).symm
    | some t => exact ih t

/-- A longer run goes on where a shorter one stopped. -/
theorem run_add (p : Problem σ α κ) (m n : Nat) : run p (m + n) = iterate p n (run p m) := iterate_add p m n (init p)

/-- A run that ended with nothing waiting is the same with any higher limit. -/
theorem run_of_le {p : Problem σ α κ} {m n : Nat} (h : m ≤ n) (hq : (run p m).queue.toList = []) :
    run p n = run p m := by
  obtain ⟨k, rfl⟩ := Nat.exists_eq_add_of_le h
  rw [run_add, iterate_of_queue_eq_nil p k hq]

end

/-! ## Nothing is forgotten -/

variable {σ α : Type} [BEq σ] [Hashable σ] {p : Problem σ α Rat} {s t u : Search σ α Rat}

protected theorem Extends.refl (s : Search σ α Rat) : Extends s s := ⟨fun h => ⟨_, h, le_refl _⟩, fun h => h⟩

protected theorem Extends.trans (h : Extends s t) (k : Extends t u) : Extends s u where
  costs hn := by
    obtain ⟨d, hd, hdc⟩ := h.costs hn
    obtain ⟨e, he, hed⟩ := k.costs hd
    exact ⟨e, he, le_trans hed hdc⟩
  outbid hc := k.outbid (h.outbid hc)

/-- A best node is followed by another one, or by itself, at no higher cost. -/
theorem Extends.best (h : Extends s t) {n : σ} {b : Rat} (hb : s.best = some (n, b)) :
    ∃ m c, t.best = some (m, c) ∧ c ≤ b :=
  outbid_iff.1 (h.outbid (outbid_iff.2 ⟨n, b, hb, le_refl _⟩))

variable [LawfulBEq σ]

theorem extends_attempt (p : Problem σ α Rat) (n : σ) (c : Rat) (s : Search σ α Rat) (a : α) :
    Extends s (attempt p n c s a) := by
  rcases attempt_cases p n c s a with ⟨e, -⟩ | ⟨m, -, -, -, hi, e⟩ <;> rw [e]
  · exact .refl s
  · exact extends_reach hi

/-- No turn forgets anything. -/
theorem extends_turn (p : Problem σ α Rat) (s : Search σ α Rat) (e : Entry σ Rat) : Extends s (follow p s e) := by
  rcases follow_cases p s e with ⟨k, -⟩ | ⟨-, ho, -, ⟨-, k⟩ | ⟨-, k⟩⟩ <;> rw [k]
  · exact .refl s
  · exact ⟨(extends_settle ho).costs, (extends_settle ho).outbid⟩
  · exact expand_induction (P := fun _ t => Extends s t) (fun _ a t _ ht => ht.trans (extends_attempt p _ _ t a))
      ⟨fun h => ⟨_, h, le_refl _⟩, fun h => h⟩

theorem extends_iterate (p : Problem σ α Rat) (limit : Nat) (s : Search σ α Rat) : Extends s (iterate p limit s) :=
  iterate_induction (P := Extends s)
    (fun t e rest _ ht => ht.trans ⟨(extends_turn p (t.taken rest) e).costs, (extends_turn p (t.taken rest) e).outbid⟩)
    (.refl s) limit

/-- A run with a higher limit knows no less. -/
theorem extends_run (p : Problem σ α Rat) {m n : Nat} (h : m ≤ n) : Extends (run p m) (run p n) := by
  obtain ⟨k, rfl⟩ := Nat.exists_eq_add_of_le h
  rw [run_add]
  exact extends_iterate p k (run p m)

/-- With a higher limit a best node is still found, and the cost at which it is found is no higher. -/
theorem best_run_le {m n : Nat} (h : m ≤ n) {x : σ} {b : Rat} (hb : (run p m).best = some (x, b)) :
    ∃ y c, (run p n).best = some (y, c) ∧ c ≤ b :=
  (extends_run p h).best hb

end GoalPlanner.Search
