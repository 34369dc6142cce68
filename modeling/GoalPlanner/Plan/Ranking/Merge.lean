import GoalPlanner.Plan.Ranking.Run

/-!
# Merging two runs

Two runs in order become one (`join`). What the second run cannot change at the ends of both stays where it is; of the
rest, the shorter run is set aside and the other taken up from the end where its members make room (`Merge`). Members
are compared one by one as long as neither run wins all the time (`Merge.compare`); while one does, its members are
taken in stretches, found by steps that double (`Merge.gallop`). How many wins in a row it takes to change over is
adjusted to what pays (`Merge.patience`). All this shows only where the comparison is not consistent; whatever it says,
the result is a rearrangement of both runs (`perm_join`).
-/

namespace GoalPlanner.Ranking

variable {α : Type}

/-! ## Looking for a boundary -/

/-- The last distance known to satisfy `p`, and the next to look at, in steps that double, below a limit. -/
def stride (p : Nat → Bool) (limit : Nat) : (fuel last next : Nat) → Nat × Nat
  | 0, last, next => (last, min next limit)
  | fuel + 1, last, next =>
    if next < limit && p next then stride p limit fuel next (2 * next + 1) else (last, min next limit)

/-- The least number below `n` at which `p` fails, looked for from a hint. -/
def boundary (p : Nat → Bool) (n hint : Nat) : Nat :=
  if p hint then
    let (last, next) := stride (fun d => p (hint + d)) (n - hint) n 0 1
    halve p (hint + last + 1) (hint + next)
  else
    let (last, next) := stride (fun d => !p (hint - d)) (hint + 1) n 0 1
    halve p (hint + 1 - next) (hint - last)

/-- The ends at which runs can be taken up. -/
inductive Side
  | front
  | back
  deriving DecidableEq, Repr

/-- How many members satisfy `q`, from the first on. At the back the members are those of a run in reverse. -/
def leading (s : Side) (q : α → Bool) (xs : List α) : Nat :=
  let members := xs.toArray
  let holds (i : Nat) : Bool := (members[i]?).any q
  match s with
  | .front => boundary holds xs.length 0
  | .back => xs.length - boundary (fun i => !holds (xs.length - 1 - i)) xs.length (xs.length - 1)

/-! ## The course of a merge -/

/-- Two runs in the course of being merged, each from the end where it is taken up. -/
structure Merge (α : Type) where
  /-- What is left of the run that was set aside. Its last member is behind all others. -/
  aside : List α
  other : List α
  /-- What has been taken, from the last to the first. -/
  done : List α
  /-- How often in a row the run set aside has won. -/
  asideWins : Nat
  otherWins : Nat
  /-- Whether members are taken in stretches. -/
  gallops : Bool
  /-- How many wins in a row it takes to go over to stretches. -/
  patience : Nat

namespace Merge

/-- Whether nothing is left to be compared. -/
def isOver (m : Merge α) : Bool := m.aside.length ≤ 1 || m.other.isEmpty

/-- All members, those that are left behind those that have been taken. -/
def toList (m : Merge α) : List α := m.done.reverse ++ (m.other ++ m.aside)

/-- Takes the better of the first two members. -/
def compare (wins : α → α → Bool) (m : Merge α) : Merge α :=
  match m.aside, m.other with
  | h :: hs, o :: os =>
    if wins o h then
      { m with other := os, done := o :: m.done, asideWins := 0, otherWins := m.otherWins + 1,
               gallops := m.patience ≤ m.otherWins + 1 }
    else
      { m with aside := hs, done := h :: m.done, asideWins := m.asideWins + 1, otherWins := 0,
               gallops := m.patience ≤ m.asideWins + 1 }
  | _, _ => m

/-- Takes the stretch of the run set aside that wins, then one member of the other; how long the stretch is. -/
def takeAside (s : Side) (wins : α → α → Bool) (m : Merge α) : Nat × Merge α :=
  match m.other with
  | o :: os =>
    let n := leading s (fun h => !wins o h) m.aside
    let m := { m with aside := m.aside.drop n, done := (m.aside.take n).reverse ++ m.done }
    (n, if m.isOver then m else { m with other := os, done := o :: m.done })
  | [] => (0, m)

/-- Takes the stretch of the other run that wins, then one member of the run set aside; how long the stretch is. -/
def takeOther (s : Side) (wins : α → α → Bool) (m : Merge α) : Nat × Merge α :=
  match m.aside with
  | h :: hs =>
    let n := leading s (fun o => wins o h) m.other
    let m := { m with other := m.other.drop n, done := (m.other.take n).reverse ++ m.done }
    (n, if m.isOver then m else { m with aside := hs, done := h :: m.done })
  | [] => (0, m)

/-- How long a stretch has to be to pay. -/
def worthwhile : Nat := 7

/-- Takes a stretch of the run on the left, then one member of the run on the right. -/
def takeLeft (s : Side) (wins : α → α → Bool) (m : Merge α) : Nat × Merge α :=
  match s with
  | .front => m.takeAside s wins
  | .back => m.takeOther s wins

/-- Takes a stretch of the run on the right, then one member of the run on the left, unless it is too late. -/
def takeRight (s : Side) (wins : α → α → Bool) (m : Merge α) : Nat × Merge α :=
  match m.isOver, s with
  | true, _ => (0, m)
  | false, .front => m.takeOther s wins
  | false, .back => m.takeAside s wins

/-- Adjusts the patience after stretches: it becomes easier to go on with them if one of them was worth it, and harder
to begin again if none was. -/
def adjust (pays : Bool) (m : Merge α) : Merge α :=
  if m.isOver then m
  else if pays then { m with patience := max 1 (m.patience - 1) }
  else { m with gallops := false, asideWins := 0, otherWins := 0, patience := m.patience + 1 }

/-- Takes a stretch of both runs, the run on the left first. -/
def gallop (s : Side) (wins : α → α → Bool) (m : Merge α) : Merge α :=
  let left := m.takeLeft s wins
  let right := left.2.takeRight s wins
  right.2.adjust (worthwhile ≤ left.1 || worthwhile ≤ right.1)

/-- Goes on until nothing is left to be compared. -/
def finish (s : Side) (wins : α → α → Bool) : (fuel : Nat) → Merge α → Merge α
  | 0, m => m
  | fuel + 1, m =>
    if m.isOver then m else finish s wins fuel (if m.gallops then m.gallop s wins else m.compare wins)

/-- Merges two runs from the ends where they are taken up; the first member of the other run is known to win. -/
def merged (s : Side) (wins : α → α → Bool) (patience : Nat) (aside other : List α) : Merge α :=
  finish s wins (aside.length + other.length) ⟨aside, other.tail, other.head?.toList, 0, 0, false, patience⟩

/-! ## Rearrangements -/

theorem perm_aside (d o xs ys : List α) :
    ((xs.reverse ++ d).reverse ++ (o ++ ys)).Perm (d.reverse ++ (o ++ (xs ++ ys))) := by
  simp only [List.reverse_append, List.reverse_reverse, List.append_assoc]
  refine List.Perm.append_left _ ?_
  rw [← List.append_assoc, ← List.append_assoc]
  exact List.perm_append_comm.append_right _

theorem perm_other (d a xs ys : List α) :
    ((xs.reverse ++ d).reverse ++ (ys ++ a)).Perm (d.reverse ++ (xs ++ ys ++ a)) := by
  simp [List.append_assoc]

theorem perm_compare (wins : α → α → Bool) (m : Merge α) : (m.compare wins).toList.Perm m.toList := by
  unfold compare
  split
  · next h hs o os ha ho =>
    split
    · simp [toList, ha, ho]
    · simpa [toList, ha, ho] using perm_aside m.done m.other [h] hs
  · exact .refl _

theorem perm_takeAside (s : Side) (wins : α → α → Bool) (m : Merge α) :
    (m.takeAside s wins).2.toList.Perm m.toList := by
  unfold takeAside
  split
  · next o os ho =>
    generalize leading s (fun h => !wins o h) m.aside = n
    have h : (Merge.mk (m.aside.drop n) m.other ((m.aside.take n).reverse ++ m.done) m.asideWins m.otherWins m.gallops
        m.patience).toList.Perm m.toList := by
      simpa [toList] using perm_aside m.done m.other (m.aside.take n) (m.aside.drop n)
    dsimp only
    split
    · exact h
    · refine .trans ?_ h
      simp [toList, ho]
  · exact .refl _

theorem perm_takeOther (s : Side) (wins : α → α → Bool) (m : Merge α) :
    (m.takeOther s wins).2.toList.Perm m.toList := by
  unfold takeOther
  split
  · next h hs ha =>
    generalize leading s (fun o => wins o h) m.other = n
    have k : (Merge.mk m.aside (m.other.drop n) ((m.other.take n).reverse ++ m.done) m.asideWins m.otherWins m.gallops
        m.patience).toList.Perm m.toList := by
      simpa [toList] using perm_other m.done m.aside (m.other.take n) (m.other.drop n)
    dsimp only
    split
    · exact k
    · refine .trans ?_ k
      simpa [toList, ha] using perm_aside ((m.other.take n).reverse ++ m.done) (m.other.drop n) [h] hs
  · exact .refl _

theorem perm_takeLeft (s : Side) (wins : α → α → Bool) (m : Merge α) :
    (m.takeLeft s wins).2.toList.Perm m.toList := by
  cases s with
  | front => exact perm_takeAside .front wins m
  | back => exact perm_takeOther .back wins m

theorem perm_takeRight (s : Side) (wins : α → α → Bool) (m : Merge α) :
    (m.takeRight s wins).2.toList.Perm m.toList := by
  unfold takeRight
  split
  · exact .refl _
  · exact perm_takeOther .front wins m
  · exact perm_takeAside .back wins m

theorem toList_adjust (pays : Bool) (m : Merge α) : (m.adjust pays).toList = m.toList := by
  unfold adjust
  split
  · rfl
  · split <;> rfl

theorem perm_gallop (s : Side) (wins : α → α → Bool) (m : Merge α) : (m.gallop s wins).toList.Perm m.toList := by
  simp only [gallop, toList_adjust]
  exact (perm_takeRight s wins _).trans (perm_takeLeft s wins m)

theorem perm_finish (s : Side) (wins : α → α → Bool) (fuel : Nat) (m : Merge α) :
    (finish s wins fuel m).toList.Perm m.toList := by
  induction fuel generalizing m with
  | zero => exact .refl _
  | succ fuel ih =>
    unfold finish
    split
    · exact .refl _
    · refine (ih _).trans ?_
      split
      · exact perm_gallop s wins m
      · exact perm_compare wins m

theorem perm_merged (s : Side) (wins : α → α → Bool) (patience : Nat) (aside other : List α) :
    (merged s wins patience aside other).toList.Perm (other ++ aside) := by
  refine (perm_finish s wins _ _).trans ?_
  cases other <;> simp [toList]

end Merge

/-- How many members of the left run stay where they are, before the first of the right run. -/
def staying (before : α → α → Bool) (left right : List α) : Nat :=
  right.head?.elim left.length fun y => leading .front (fun x => !before y x) left

/-- How many members of the right run come before the last of the left run. -/
def moving (before : α → α → Bool) (left right : List α) : Nat :=
  left.getLast?.elim 0 fun x => right.length - leading .back (fun y => !before y x) right.reverse

/-- Two runs as one, where every member may move, and the patience that is left. -/
def joinMoving (before : α → α → Bool) (patience : Nat) (left right : List α) : List α × Nat :=
  if left.isEmpty || right.isEmpty then (left ++ right, patience)
  else if left.length ≤ right.length then
    let m := Merge.merged .front before patience left right
    (m.toList, m.patience)
  else
    let m := Merge.merged .back (fun x y => before y x) patience right.reverse left.reverse
    (m.toList.reverse, m.patience)

/-- Two runs as one, and the patience that is left. -/
def join (before : α → α → Bool) (patience : Nat) (left right : List α) : List α × Nat :=
  let i := staying before left right
  let j := moving before (left.drop i) right
  let (middle, patience) := joinMoving before patience (left.drop i) (right.take j)
  (left.take i ++ (middle ++ right.drop j), patience)

theorem perm_joinMoving (before : α → α → Bool) (patience : Nat) (left right : List α) :
    (joinMoving before patience left right).1.Perm (left ++ right) := by
  unfold joinMoving
  split
  · exact .refl _
  · split
    · exact (Merge.perm_merged ..).trans List.perm_append_comm
    · refine (List.reverse_perm _).trans ((Merge.perm_merged ..).trans ?_)
      exact (List.reverse_perm _).append (List.reverse_perm _)

/-- The result has the members of both runs. -/
theorem perm_join (before : α → α → Bool) (patience : Nat) (left right : List α) :
    (join before patience left right).1.Perm (left ++ right) := by
  refine (((perm_joinMoving before patience _ _).append_right _).append_left _).trans ?_
  rw [List.append_assoc, List.take_append_drop, ← List.append_assoc, List.take_append_drop]

end GoalPlanner.Ranking
