import GoalPlanner.Order
import GoalPlanner.Plan.Ranking.Run
import Mathlib

/-!
# Runs are in order

Where a comparison is consistent (`IsWeakOrder`), a run is in order (`inOrder_nextRun`). A place found by halving is a
boundary: the test holds just in front of it and fails there (`isBoundary_halve`). In a list where the test holds of a
front part only, such a place splits the list (`split_of_boundary`), so a member that is inserted comes to stand in
order (`inOrder_insert`).
-/

namespace GoalPlanner

/-- A decided strict order in which things that are not told apart stand alike to all others. -/
structure IsWeakOrder {α : Type} (lt : α → α → Bool) : Prop extends IsOrder lt where
  trans_false {a b c : α} (h : lt b a = false) (k : lt c b = false) : lt c a = false

namespace IsWeakOrder

variable {α : Type} {lt : α → α → Bool}

theorem asymm (h : IsWeakOrder lt) {a b : α} (hab : lt a b = true) : lt b a = false := by
  cases hba : lt b a with
  | false => rfl
  | true =>
    have haa := h.trans hab hba
    rw [h.irrefl] at haa
    cases haa

/-- The same order the other way around. -/
theorem flip (h : IsWeakOrder lt) : IsWeakOrder fun a b => lt b a where
  irrefl := h.irrefl
  trans hab hbc := h.trans hbc hab
  trans_false hab hbc := h.trans_false hbc hab

end IsWeakOrder

namespace Ranking

variable {α : Type} {before : α → α → Bool}

/-- No member is to come before one that stands in front of it. -/
def InOrder (before : α → α → Bool) (xs : List α) : Prop := xs.Pairwise fun x y => before y x = false

/-! ## Boundaries -/

/-- A place in a range where the test fails, unless it is the end, and in front of which it holds, unless it is the
beginning. -/
structure IsBoundary (p : Nat → Bool) (low high n : Nat) : Prop where
  low_le : low ≤ n
  le_high : n ≤ high
  holds : low < n → p (n - 1) = true
  fails : n < high → p n = false

theorem isBoundary_halve (p : Nat → Bool) {low high : Nat} (h : low ≤ high) :
    IsBoundary p low high (halve p low high) := by
  fun_induction halve p low high with
  | case1 low high hlt middle hp ih =>
    have hb := ih (by omega)
    refine ⟨by have := hb.low_le; omega, hb.le_high, fun _ => ?_, hb.fails⟩
    by_cases hn : middle + 1 < halve p (middle + 1) high
    · exact hb.holds hn
    · have hn : halve p (middle + 1) high = middle + 1 := by have := hb.low_le; omega
      rw [hn]
      exact hp
  | case2 low high hlt middle hp ih =>
    have hb := ih (by omega)
    refine ⟨hb.low_le, by have := hb.le_high; omega, hb.holds, fun _ => ?_⟩
    by_cases hn : halve p low middle < middle
    · exact hb.fails hn
    · have hn : halve p low middle = middle := by have := hb.le_high; omega
      rw [hn]
      exact Bool.eq_false_iff.2 hp
  | case3 low high hlt => exact ⟨le_refl _, h, fun hl => absurd hl (lt_irrefl _), fun hl => absurd hl hlt⟩

/-- Where a test holds of a front part only, a boundary splits the list into the part of which it holds and the rest.
-/
theorem split_of_boundary {q : α → Bool} {xs : List α} (hq : xs.Pairwise fun x y => q y = true → q x = true) {n : Nat}
    (hn : IsBoundary (fun i => (xs[i]?).any q) 0 xs.length n) :
    (∀ x ∈ xs.take n, q x = true) ∧ ∀ x ∈ xs.drop n, q x = false := by
  rw [List.pairwise_iff_getElem] at hq
  constructor
  · intro x hx
    obtain ⟨i, hi, rfl⟩ := List.mem_take_iff_getElem.1 hx
    have hlast := hn.holds (by omega)
    have hlen : n - 1 < xs.length := by have := hn.le_high; omega
    rw [List.getElem?_eq_getElem hlen, Option.any_some] at hlast
    by_cases he : i = n - 1
    · subst he
      exact hlast
    · exact hq i (n - 1) (by omega) hlen (by omega) hlast
  · intro x hx
    obtain ⟨i, hi, rfl⟩ := List.mem_drop_iff_getElem.1 hx
    have hnext := hn.fails (by omega)
    have hlen : n < xs.length := by omega
    rw [List.getElem?_eq_getElem hlen, Option.any_some] at hnext
    rw [← Bool.not_eq_true] at hnext ⊢
    intro hi'
    by_cases he : i = 0
    · subst he
      exact hnext (by simpa using hi')
    · exact hnext (hq n (n + i) hlen (by omega) (by omega) hi')

/-! ## Inserting -/

theorem inOrder_insert (h : IsWeakOrder before) {xs : List α} (hxs : InOrder before xs) (x : α) :
    InOrder before (insert before xs x) := by
  have hn : IsBoundary (fun i => (xs[i]?).any fun y => !before x y) 0 xs.length
      (halve (fun i => !(xs.toArray[i]?).any (before x)) 0 xs.length) := by
    have hb := isBoundary_halve (fun i => !(xs.toArray[i]?).any (before x)) (Nat.zero_le xs.length)
    have same {i : Nat} (hi : i < xs.length) :
        ((xs[i]?).any fun y => !before x y) = !(xs.toArray[i]?).any (before x) := by
      simp [hi]
    exact ⟨hb.low_le, hb.le_high, fun hl => (same (by have := hb.le_high; omega)).trans (hb.holds hl),
      fun hl => (same hl).trans (hb.fails hl)⟩
  have hfront : xs.Pairwise fun y z => (!before x z) = true → (!before x y) = true := by
    refine hxs.imp fun {y z} hyz hz => ?_
    rw [Bool.not_eq_true'] at hz ⊢
    exact h.trans_false hyz hz
  obtain ⟨hle, hgt⟩ := split_of_boundary hfront hn
  show InOrder before (xs.take _ ++ x :: xs.drop _)
  generalize halve (fun i => !(xs.toArray[i]?).any (before x)) 0 xs.length = n at hle hgt
  have hparts : (xs.take n ++ xs.drop n).Pairwise fun y z => before z y = false := by rwa [List.take_append_drop]
  obtain ⟨htake, hdrop, hcross⟩ := List.pairwise_append.1 hparts
  refine List.pairwise_append.2 ⟨htake, List.pairwise_cons.2 ⟨fun z hz => ?_, hdrop⟩, fun y hy z hz => ?_⟩
  · exact h.asymm (by simpa using hgt z hz)
  · rcases List.mem_cons.1 hz with rfl | hz
    · simpa using hle y hy
    · exact hcross y hy z hz

theorem inOrder_foldl_insert (h : IsWeakOrder before) (ys : List α) {xs : List α} (hxs : InOrder before xs) :
    InOrder before (ys.foldl (insert before) xs) := by
  induction ys generalizing xs with
  | nil => exact hxs
  | cons y ys ih => exact ih (inOrder_insert h hxs y)

/-! ## Runs -/

/-- What a run that goes down, or does not, says of a member and one that was met earlier. -/
def goesOn (before : α → α → Bool) (down : Bool) (x last : α) : Prop :=
  if down then before last x = false else before x last = false

/-- The members of a run that have been met, from the last to the first, stand as the run goes. -/
theorem pairwise_run (h : IsWeakOrder before) (down : Bool) (r : List α) {done : List α} {last : α}
    (hd : (last :: done).Pairwise (goesOn before down)) :
    (run before down done last r).1.Pairwise (goesOn before down) := by
  induction r generalizing done last with
  | nil => exact hd
  | cons x r ih =>
    rw [run]
    split
    · rename_i hx
      have hlast : goesOn before down x last := by
        cases down with
        | true => exact h.asymm (by simpa using hx)
        | false => simpa [goesOn] using hx
      refine ih (List.pairwise_cons.2 ⟨fun y hy => ?_, hd⟩)
      rcases List.mem_cons.1 hy with rfl | hy
      · exact hlast
      · have hyl := (List.pairwise_cons.1 hd).1 y hy
        cases down with
        | true => exact h.trans_false hlast hyl
        | false => exact h.trans_false hyl hlast
    · exact hd

/-- The run at the front of a list is in order. -/
theorem inOrder_nextRun (h : IsWeakOrder before) (least : Nat) (xs : List α) :
    InOrder before (nextRun before least xs).1 := by
  match xs with
  | [] => exact List.Pairwise.nil
  | [x] => exact List.pairwise_singleton _ x
  | x :: y :: r =>
    have hrun := pairwise_run h (before y x) (y :: r) (List.pairwise_singleton _ x)
    simp only [nextRun]
    refine inOrder_foldl_insert h _ ?_
    split
    · rename_i hdown
      rw [hdown] at hrun ⊢
      exact hrun
    · rename_i hdown
      rw [Bool.not_eq_true] at hdown
      rw [hdown] at hrun ⊢
      exact List.pairwise_reverse.2 hrun

end Ranking

end GoalPlanner
