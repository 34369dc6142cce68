import GoalPlanner.Plan.Ranking.Merge

/-!
# Sorting by runs

A list is cut into runs, and runs that stand side by side are joined until one is left (`sort`). Which ones are joined
first depends on where the boundary between them lies: boundaries that a division of the list by halves meets early are
kept longest (`level`). Whatever the comparison says, the result is a rearrangement of the list (`perm_sort`).
-/

namespace GoalPlanner.Ranking

variable {α : Type}

/-- A run that waits for being joined with the next. -/
structure Pending (α : Type) where
  /-- The number of members of the list in front of it. -/
  start : Nat
  members : List α
  /-- The level of the boundary behind it. -/
  level : Nat

/-- How often a range of `n` has to be halved until `a` and `b`, counted in halves, lie in different parts. -/
def level (n : Nat) : (fuel a b : Nat) → Nat
  | 0, _, _ => 1
  | fuel + 1, a, b =>
    if n ≤ a then level n fuel (2 * (a - n)) (2 * (b - n)) + 1
    else if n ≤ b then 1
    else level n fuel (2 * a) (2 * b) + 1

/-- The level of the boundary between two runs of a list of `n` members, by their middles. -/
def levelBetween (n : Nat) (left : Pending α) (right : List α) : Nat :=
  let a := 2 * left.start + left.members.length
  level n (n + 2) a (a + left.members.length + right.length)

/-- Joins the last run with those before it as long as the boundaries between them are of higher levels. -/
def collapse (before : α → α → Bool) (l : Nat) (last : Pending α) (patience : Nat) :
    List (Pending α) → Pending α × List (Pending α) × Nat
  | [] => (last, [], patience)
  | p :: ps =>
    if l < p.level then
      let (members, patience) := join before patience p.members last.members
      collapse before l { p with members } patience ps
    else (last, p :: ps, patience)

/-- Adds a run of a list of `n` members to those before it, from the last to the first. -/
def push (before : α → α → Bool) (n : Nat) (members : List α) (patience : Nat) :
    List (Pending α) → List (Pending α) × Nat
  | [] => ([⟨0, members, 0⟩], patience)
  | last :: ps =>
    let l := levelBetween n last members
    let start := last.start + last.members.length
    let (last, ps, patience) := collapse before l last patience ps
    (⟨start, members, 0⟩ :: { last with level := l } :: ps, patience)

/-- Joins all runs, given the last and those before it: the last two, or the two before it if the first of these is the
shortest of the three. -/
def joinAll (before : α → α → Bool) (last : List α) (patience : Nat) : List (List α) → List α
  | [] => last
  | [p] => (join before patience p last).1
  | p :: q :: ps =>
    if q.length < last.length then
      let (joined, patience) := join before patience q p
      joinAll before last patience (joined :: ps)
    else
      let (joined, patience) := join before patience p last
      joinAll before joined patience (q :: ps)
termination_by ps => ps.length

/-- The least length of a run for a list: its own length if that is below 64, else its first six binary digits, one more
if any other digit is set. -/
def leastRun (n : Nat) (more : Nat) : Nat := if n < 64 then n + more else leastRun (n / 2) (max more (n % 2))
termination_by n

/-- Cuts a list of `n` members into runs, given those before it. -/
def pushAll (before : α → α → Bool) (n : Nat) : (fuel : Nat) → List (Pending α) → Nat → List α → List (Pending α) × Nat
  | 0, ps, patience, _ => (ps, patience)
  | _ + 1, ps, patience, [] => (ps, patience)
  | fuel + 1, ps, patience, xs =>
    let (members, rest) := nextRun before (leastRun n 0) xs
    let (ps, patience) := push before n members patience ps
    pushAll before n fuel ps patience rest

/-- The members in order. -/
def sort (before : α → α → Bool) (xs : List α) : List α :=
  match pushAll before xs.length xs.length [] Merge.worthwhile xs with
  | ([], _) => []
  | (last :: ps, patience) => joinAll before last.members patience (ps.map Pending.members)

/-! ## Rearrangements -/

/-- The members of runs, given from the last to the first. -/
def members (ps : List (Pending α)) : List α := (ps.map Pending.members).reverse.flatten

theorem members_cons (p : Pending α) (ps : List (Pending α)) : members (p :: ps) = members ps ++ p.members := by
  simp [members]

theorem perm_collapse (before : α → α → Bool) (l : Nat) (ps : List (Pending α)) : ∀ (last : Pending α) (patience : Nat),
    (members ((collapse before l last patience ps).1 :: (collapse before l last patience ps).2.1)).Perm
      (members (last :: ps)) := by
  induction ps with
  | nil => intro last patience; exact .refl _
  | cons p ps ih =>
    intro last patience
    simp only [collapse]
    split
    · refine (ih _ _).trans ?_
      simp only [members_cons, List.append_assoc]
      exact (perm_join before patience p.members last.members).append_left _
    · exact .refl _

theorem perm_push (before : α → α → Bool) (n : Nat) (xs : List α) (patience : Nat) (ps : List (Pending α)) :
    (members (push before n xs patience ps).1).Perm (members ps ++ xs) := by
  match ps with
  | [] => simp [push, members]
  | last :: ps =>
    have h := perm_collapse before (levelBetween n last xs) ps last patience
    simp only [push, members_cons] at h ⊢
    exact h.append_right xs

theorem perm_pushAll (before : α → α → Bool) (n : Nat) (fuel : Nat) : ∀ (ps : List (Pending α)) (patience : Nat)
    (xs : List α), xs.length ≤ fuel → (members (pushAll before n fuel ps patience xs).1).Perm (members ps ++ xs) := by
  induction fuel with
  | zero =>
    intro ps patience xs h
    obtain rfl := List.eq_nil_of_length_eq_zero (Nat.le_zero.1 h)
    simp [pushAll]
  | succ fuel ih =>
    intro ps patience xs h
    match xs with
    | [] => simp [pushAll]
    | x :: xs =>
      have hp := perm_nextRun before (leastRun n 0) (x :: xs)
      have hn := length_nextRun before (leastRun n 0) x xs
      simp only [pushAll]
      refine (ih _ _ _ (by simp only [List.length_cons] at h; omega)).trans ?_
      refine ((perm_push before n _ patience ps).append_right _).trans ?_
      rw [List.append_assoc]
      exact hp.append_left _

theorem perm_joinAll (before : α → α → Bool) (last : List α) (patience : Nat) (ps : List (List α)) :
    (joinAll before last patience ps).Perm (ps.reverse.flatten ++ last) := by
  fun_induction joinAll before last patience ps with
  | case1 => simp
  | case2 last patience p => simpa using perm_join before patience p last
  | case3 last patience p q ps _ joined patience' hj ih =>
    refine ih.trans ?_
    have h := perm_join before patience q p
    rw [hj] at h
    simp only [List.reverse_cons, List.flatten_append, List.flatten_cons, List.flatten_nil, List.append_nil,
      List.append_assoc]
    simpa [List.append_assoc] using (h.append_right last).append_left ps.reverse.flatten
  | case4 last patience p q ps _ joined patience' hj ih =>
    refine ih.trans ?_
    have h := perm_join before patience p last
    rw [hj] at h
    simp only [List.reverse_cons, List.flatten_append, List.flatten_cons, List.flatten_nil, List.append_nil,
      List.append_assoc]
    exact (h.append_left _).append_left _

/-- Sorting rearranges. -/
theorem perm_sort (before : α → α → Bool) (xs : List α) : (sort before xs).Perm xs := by
  have h := perm_pushAll before xs.length xs.length [] Merge.worthwhile xs (Nat.le_refl _)
  unfold sort
  split
  · next hp =>
    rw [hp] at h
    simpa [members] using h
  · next last ps patience hp =>
    rw [hp] at h
    exact (perm_joinAll before last.members patience _).trans (by simpa [members] using h)

end GoalPlanner.Ranking
