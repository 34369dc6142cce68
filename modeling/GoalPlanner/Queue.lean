/-!
# Priority queues

Leftist trees: the shorter way down is on the right, so that joining two trees walks two short ways only. The order is a
parameter of each operation. A queue holds what was pushed (`toList_push`), and from a queue in order (`Ordered`) the
first member comes out (`pop?_least`); pushing and popping keep a queue in order.
-/

namespace GoalPlanner

/-- A priority queue; `rank` is the length of the way down on the right. -/
inductive Queue (α : Type)
  | empty
  | node (rank : Nat) (top : α) (left right : Queue α)

namespace Queue

variable {α : Type}

/-- The length of the way down on the right. -/
def rank : Queue α → Nat
  | empty => 0
  | node r _ _ _ => r

/-- The number of members. -/
def size : Queue α → Nat
  | empty => 0
  | node _ _ l r => l.size + r.size + 1

/-- The members, in no particular order. -/
def toList : Queue α → List α
  | empty => []
  | node _ x l r => x :: (l.toList ++ r.toList)

/-- A tree with the given top, its shorter side on the right. -/
def join (x : α) (p q : Queue α) : Queue α :=
  if q.rank ≤ p.rank then node (q.rank + 1) x p q else node (p.rank + 1) x q p

/-- The members of both queues in one. -/
def merge (before : α → α → Bool) : Queue α → Queue α → Queue α
  | empty, q => q
  | p, empty => p
  | node m x l r, node n y l' r' =>
    if before y x then join y l' (merge before (node m x l r) r')
    else join x l (merge before r (node n y l' r'))
termination_by p q => p.size + q.size
decreasing_by all_goals simp only [size]; omega

/-- The queue with one more member. -/
def push (before : α → α → Bool) (x : α) (q : Queue α) : Queue α := merge before (node 1 x empty empty) q

/-- The first member and the rest. -/
def pop? (before : α → α → Bool) : Queue α → Option (α × Queue α)
  | empty => none
  | node _ x l r => some (x, merge before l r)

/-! ## Members -/

theorem size_eq_length (q : Queue α) : q.size = q.toList.length := by
  induction q with
  | empty => rfl
  | node _ _ l r ihl ihr => simp [size, toList, ihl, ihr]

theorem toList_join (x : α) (p q : Queue α) : (join x p q).toList.Perm (x :: (p.toList ++ q.toList)) := by
  unfold join
  split
  · exact List.Perm.refl _
  · exact List.perm_append_comm.cons _

theorem toList_merge (before : α → α → Bool) (p q : Queue α) :
    (merge before p q).toList.Perm (p.toList ++ q.toList) := by
  fun_induction merge before p q with
  | case1 => simp [toList]
  | case2 p => simp [toList]
  | case3 m x l r n y l' r' h ih =>
    refine (toList_join _ _ _).trans ?_
    refine ((ih.append_left _).cons _).trans ?_
    refine (List.Perm.cons _ (List.perm_append_comm_assoc _ _ _)).trans ?_
    exact List.perm_middle.symm
  | case4 m x l r n y l' r' h ih =>
    refine (toList_join _ _ _).trans ?_
    refine ((ih.append_left _).cons _).trans ?_
    simp [toList]

theorem toList_push (before : α → α → Bool) (x : α) (q : Queue α) :
    (push before x q).toList.Perm (x :: q.toList) := by
  simpa [push, toList] using toList_merge before (node 1 x empty empty) q

theorem toList_of_pop? {before : α → α → Bool} {q p : Queue α} {x : α} (h : pop? before q = some (x, p)) :
    q.toList.Perm (x :: p.toList) := by
  cases q with
  | empty => simp [pop?] at h
  | node n y l r =>
    simp only [pop?, Option.some.injEq, Prod.mk.injEq] at h
    obtain ⟨rfl, rfl⟩ := h
    exact (toList_merge before l r).symm.cons _

theorem pop?_eq_none_iff {before : α → α → Bool} {q : Queue α} : pop? before q = none ↔ q.toList = [] := by
  cases q <;> simp [pop?, toList]

/-! ## Order -/

/-- No member below comes before the one above it. -/
def Ordered (before : α → α → Bool) : Queue α → Prop
  | empty => True
  | node _ x l r => (∀ y ∈ l.toList ++ r.toList, before y x = false) ∧ l.Ordered before ∧ r.Ordered before

theorem ordered_join {before : α → α → Bool} {x : α} {p q : Queue α} (hp : p.Ordered before) (hq : q.Ordered before)
    (h : ∀ y ∈ p.toList ++ q.toList, before y x = false) : (join x p q).Ordered before := by
  unfold join
  split
  · exact ⟨h, hp, hq⟩
  · exact ⟨fun y hy => h y (List.perm_append_comm.mem_iff.1 hy), hq, hp⟩

/-- The laws of a queue's order: it is irreflexive, and what does not come before something that does not come before
a third does not come before the third. -/
structure Order (before : α → α → Bool) : Prop where
  asymm : ∀ {x y}, before x y = true → before y x = false
  trans : ∀ {x y z}, before y x = false → before z y = false → before z x = false

theorem ordered_merge {before : α → α → Bool} (o : Order before) {p q : Queue α} (hp : p.Ordered before)
    (hq : q.Ordered before) : (merge before p q).Ordered before := by
  fun_induction merge before p q with
  | case1 => exact hq
  | case2 => exact hp
  | case3 m x l r n y l' r' h ih =>
    refine ordered_join hq.2.1 (ih hp hq.2.2) fun z hz => ?_
    rcases List.mem_append.1 hz with hz | hz
    · exact hq.1 z (List.mem_append_left _ hz)
    · rcases List.mem_append.1 ((toList_merge before _ _).mem_iff.1 hz) with hz | hz
      · simp only [toList, List.mem_cons] at hz
        rcases hz with rfl | hz
        · exact o.asymm h
        · exact o.trans (o.asymm h) (hp.1 z hz)
      · exact hq.1 z (List.mem_append_right _ hz)
  | case4 m x l r n y l' r' h ih =>
    have h : before y x = false := by simpa using h
    refine ordered_join hp.2.1 (ih hp.2.2 hq) fun z hz => ?_
    rcases List.mem_append.1 hz with hz | hz
    · exact hp.1 z (List.mem_append_left _ hz)
    · rcases List.mem_append.1 ((toList_merge before _ _).mem_iff.1 hz) with hz | hz
      · exact hp.1 z (List.mem_append_right _ hz)
      · simp only [toList, List.mem_cons] at hz
        rcases hz with rfl | hz
        · exact h
        · exact o.trans h (hq.1 z hz)

theorem ordered_push {before : α → α → Bool} (o : Order before) (x : α) {q : Queue α} (h : q.Ordered before) :
    (push before x q).Ordered before :=
  ordered_merge o ⟨by simp [toList], trivial, trivial⟩ h

theorem ordered_of_pop? {before : α → α → Bool} (o : Order before) {q p : Queue α} {x : α} (h : q.Ordered before)
    (hp : pop? before q = some (x, p)) : p.Ordered before := by
  cases q with
  | empty => simp [pop?] at hp
  | node n y l r =>
    simp only [pop?, Option.some.injEq, Prod.mk.injEq] at hp
    rw [← hp.2]
    exact ordered_merge o h.2.1 h.2.2

/-- What comes out first comes before all that stays, or is as good. -/
theorem pop?_least {before : α → α → Bool} {q p : Queue α} {x : α} (h : q.Ordered before)
    (hp : pop? before q = some (x, p)) : ∀ y ∈ p.toList, before y x = false := by
  cases q with
  | empty => simp [pop?] at hp
  | node n z l r =>
    simp only [pop?, Option.some.injEq, Prod.mk.injEq] at hp
    obtain ⟨rfl, rfl⟩ := hp
    exact fun y hy => h.1 y ((toList_merge before l r).mem_iff.1 hy)

end Queue

end GoalPlanner
