/-!
# Runs

A list is put in order run by run. A run is a stretch at its front that is in order already (`run`), turned around if it
goes down, with further members inserted where it is too short (`nextRun`). The comparison need not be consistent; what
comes out is always a rearrangement of what went in (`perm_nextRun`).
-/

namespace GoalPlanner.Ranking

variable {α : Type}

/-- The least number from `low` to `high` at which `p` fails, by halving the part in question. -/
def halve (p : Nat → Bool) (low high : Nat) : Nat :=
  if h : low < high then
    let middle := (low + high) / 2
    if p middle then halve p (middle + 1) high else halve p low middle
  else low
termination_by high - low

/-- The list with one more member in its place. -/
def insert (before : α → α → Bool) (xs : List α) (x : α) : List α :=
  let members := xs.toArray
  let n := halve (fun i => !(members[i]?).any (before x)) 0 xs.length
  xs.take n ++ x :: xs.drop n

/-- The longest run at the front in which each member outdoes the one before it or, for `down = false`, does not. The
run comes back in reverse. -/
def run (before : α → α → Bool) (down : Bool) (done : List α) (last : α) : List α → List α × List α
  | [] => (last :: done, [])
  | x :: r => if before x last == down then run before down (last :: done) x r else (last :: done, x :: r)

/-- The run at the front, of at least so many members if there are so many, and the rest. -/
def nextRun (before : α → α → Bool) (least : Nat) : List α → List α × List α
  | x :: y :: r =>
    let down := before y x
    let (front, rest) := run before down [] x (y :: r)
    let front := if down then front else front.reverse
    let missing := least - front.length
    ((rest.take missing).foldl (insert before) front, rest.drop missing)
  | xs => (xs, [])

/-! ## Rearrangements -/

theorem perm_insert (before : α → α → Bool) (xs : List α) (x : α) : (insert before xs x).Perm (x :: xs) := by
  unfold insert
  exact List.perm_middle.trans (by rw [List.take_append_drop])

theorem perm_foldl_insert (before : α → α → Bool) (ys : List α) :
    ∀ xs : List α, (ys.foldl (insert before) xs).Perm (xs ++ ys) := by
  induction ys with
  | nil => intro xs; simp
  | cons y ys ih =>
    intro xs
    exact (ih _).trans (((perm_insert before xs y).append_right ys).trans List.perm_middle.symm)

theorem perm_run (before : α → α → Bool) (down : Bool) (r : List α) : ∀ (done : List α) (last : α),
    ((run before down done last r).1 ++ (run before down done last r).2).Perm (done ++ last :: r) := by
  induction r with
  | nil => intro done last; simpa [run] using (List.perm_append_singleton last done).symm
  | cons x r ih =>
    intro done last
    simp only [run]
    split
    · exact (ih _ _).trans (by simpa using List.perm_middle.symm)
    · simpa using List.perm_middle.symm

/-- The run and the rest together are the list, in another order. -/
theorem perm_nextRun (before : α → α → Bool) (least : Nat) (xs : List α) :
    ((nextRun before least xs).1 ++ (nextRun before least xs).2).Perm xs := by
  match xs with
  | [] | [_] => simp [nextRun]
  | x :: y :: r =>
    simp only [nextRun]
    generalize hf : (if before y x then (run before (before y x) [] x (y :: r)).1
      else (run before (before y x) [] x (y :: r)).1.reverse) = front
    have hp : front.Perm (run before (before y x) [] x (y :: r)).1 := by
      rw [← hf]; split <;> simp [List.reverse_perm]
    refine ((perm_foldl_insert before _ _).append_right _).trans ?_
    rw [List.append_assoc, List.take_append_drop]
    exact (hp.append_right _).trans (by simpa using perm_run before (before y x) (y :: r) [] x)

/-- The run at the front of a list that is not empty is not empty. -/
theorem length_nextRun (before : α → α → Bool) (least : Nat) (x : α) (xs : List α) :
    (nextRun before least (x :: xs)).2.length ≤ xs.length := by
  match xs with
  | [] => simp [nextRun]
  | y :: r =>
    have h (down : Bool) (r : List α) : ∀ (done : List α) (last : α),
        (run before down done last r).2.length ≤ r.length := by
      induction r with
      | nil => intro done last; simp [run]
      | cons x r ih =>
        intro done last
        simp only [run]
        split
        · exact Nat.le_succ_of_le (ih _ _)
        · exact Nat.le_refl _
    simp only [nextRun, List.length_drop]
    exact Nat.le_trans (Nat.sub_le _ _) (h _ _ _ _)

end GoalPlanner.Ranking
