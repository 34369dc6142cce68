import GoalPlanner.Search
import Mathlib

/-!
# Walks

Where some actions lead in a search problem (`Problem.after`) and what they cost together (`Problem.total`). With
rational costs, totals add up (`total_append`), and if no cost is negative, leaving actions out makes a total no larger
(`Cost.sum_le_of_sublist`).
-/

namespace GoalPlanner

/-! ## Sums of rational costs -/

namespace Cost

theorem foldl_add (x : Rat) (xs : List Rat) : xs.foldl (· + ·) x = x + xs.foldl (· + ·) 0 := by
  induction xs generalizing x with
  | nil => simp
  | cons y ys ih =>
    rw [List.foldl_cons, List.foldl_cons, ih, ih (0 + y)]
    grind

@[simp] theorem sum_nil : Cost.sum ([] : List Rat) = 0 := rfl

@[simp] theorem sum_cons (x : Rat) (xs : List Rat) : Cost.sum (x :: xs) = x + Cost.sum xs := by
  rw [Cost.sum, List.foldl_cons, foldl_add, Cost.sum]
  grind

@[simp] theorem sum_append (xs ys : List Rat) : Cost.sum (xs ++ ys) = Cost.sum xs + Cost.sum ys := by
  induction xs with
  | nil => simp
  | cons x xs ih => simp only [List.cons_append, sum_cons, ih]; grind

theorem sum_nonneg {xs : List Rat} (h : ∀ x ∈ xs, 0 ≤ x) : 0 ≤ Cost.sum xs := by
  induction xs with
  | nil => simp
  | cons x xs ih =>
    rw [sum_cons]
    have hx := h x List.mem_cons_self
    have hxs := ih fun y hy => h y (List.mem_cons_of_mem _ hy)
    grind

/-- Leaving out numbers that are not negative makes a sum no larger. -/
theorem sum_le_of_sublist {xs ys : List Rat} (hs : xs.Sublist ys) (h : ∀ y ∈ ys, 0 ≤ y) :
    Cost.sum xs ≤ Cost.sum ys := by
  induction hs with
  | slnil => simp
  | cons y _ ih =>
    rw [sum_cons]
    have hy := h y List.mem_cons_self
    have := ih fun z hz => h z (List.mem_cons_of_mem _ hz)
    grind
  | cons_cons y _ ih =>
    rw [sum_cons, sum_cons]
    have := ih fun z hz => h z (List.mem_cons_of_mem _ hz)
    grind

end Cost

/-! ## Walks of a problem -/

namespace Problem

variable {σ α κ : Type}

/-- The node that some actions lead to from a node, if each is available when its turn comes. -/
def after (p : Problem σ α κ) (n : σ) : List α → Option σ
  | [] => some n
  | a :: as => (p.next a n).bind fun m => p.after m as

@[simp] theorem after_nil (p : Problem σ α κ) (n : σ) : p.after n [] = some n := rfl

theorem after_cons_eq_some_iff {p : Problem σ α κ} {n k : σ} {a : α} {as : List α} :
    p.after n (a :: as) = some k ↔ ∃ m, p.next a n = some m ∧ p.after m as = some k :=
  Option.bind_eq_some_iff

theorem after_append (p : Problem σ α κ) (n : σ) (as bs : List α) :
    p.after n (as ++ bs) = (p.after n as).bind fun m => p.after m bs := by
  induction as generalizing n with
  | nil => rfl
  | cons a as ih =>
    simp only [List.cons_append, after]
    cases p.next a n with
    | none => rfl
    | some m => exact ih m

/-- What some actions cost together. -/
def total [Cost κ] (p : Problem σ α κ) (as : List α) : κ := Cost.sum (as.map p.cost)

variable {p : Problem σ α Rat}

@[simp] theorem total_nil : p.total [] = 0 := rfl

@[simp] theorem total_cons (a : α) (as : List α) : p.total (a :: as) = p.cost a + p.total as := by
  simp [total]

@[simp] theorem total_append (as bs : List α) : p.total (as ++ bs) = p.total as + p.total bs := by
  simp [total]

theorem total_nonneg {as : List α} (h : ∀ a ∈ as, 0 ≤ p.cost a) : 0 ≤ p.total as := by
  refine Cost.sum_nonneg fun x hx => ?_
  obtain ⟨a, ha, rfl⟩ := List.mem_map.1 hx
  exact h a ha

end Problem

end GoalPlanner
