import GoalPlanner.Plan.Ranking.Merge
import GoalPlanner.Proofs.Plan.Ranking.Run
import Mathlib

/-!
# Two runs in order give one

A place that is looked for in steps that double is a boundary too (`isBoundary_boundary`), so the stretch that is
taken of a run consists of the members that win and no others (`split_leading`). In the course of a merge, what has
been taken is in order and stands in front of what is left of both runs, and the last member of the run set aside is
behind the other run (`Merge.Ordered`). Taking one member keeps this (`Merge.Ordered.compare`), and so does taking
stretches (`Merge.Ordered.gallop`); each makes less of what is left, so every merge comes to an end in order
(`Merge.inOrder_finish`). Joining two runs in order therefore gives one in order (`inOrder_join`).
-/

namespace GoalPlanner.Ranking

variable {α : Type}

/-! ## Looking for a boundary -/

/-- The distances that are left when the steps end: the test holds at the first, and fails at the second or is not
wanted there. -/
theorem stride_spec (p : Nat → Bool) (limit fuel : Nat) {last next : Nat} (hp : p last = true) (hln : last < next)
    (hll : last < limit) (hf : limit ≤ fuel + next) :
    p (stride p limit fuel last next).1 = true ∧
      (stride p limit fuel last next).1 < (stride p limit fuel last next).2 ∧
      (stride p limit fuel last next).2 ≤ limit ∧
      ((stride p limit fuel last next).2 < limit → p (stride p limit fuel last next).2 = false) := by
  induction fuel generalizing last next with
  | zero =>
    rw [stride]
    exact ⟨hp, lt_min hln hll, min_le_right _ _, fun h => absurd h (by omega)⟩
  | succ fuel ih =>
    rw [stride]
    split
    · rename_i h
      simp only [Bool.and_eq_true, decide_eq_true_eq] at h
      exact ih h.2 (by omega) h.1 (by omega)
    · rename_i h
      simp only [Bool.and_eq_true, decide_eq_true_eq, not_and, Bool.not_eq_true] at h
      refine ⟨hp, lt_min hln hll, min_le_right _ _, fun hlt => ?_⟩
      have hn : next < limit := by
        by_contra hge
        rw [Nat.min_eq_right (by omega)] at hlt
        exact lt_irrefl _ hlt
      rw [Nat.min_eq_left (by omega)]
      exact h hn

theorem isBoundary_boundary (p : Nat → Bool) {n hint : Nat} (h : hint < n) :
    IsBoundary p 0 n (boundary p n hint) := by
  rw [boundary]
  split
  · rename_i hp
    obtain ⟨hlast, hlt, hle, hnext⟩ := stride_spec (fun d => p (hint + d)) (n - hint) n
      (show p (hint + 0) = true from hp) Nat.one_pos (by omega) (by omega)
    generalize stride (fun d => p (hint + d)) (n - hint) n 0 1 = dist at hlast hlt hle hnext ⊢
    obtain ⟨last, next⟩ := dist
    simp only at hlast hlt hle hnext ⊢
    have hb := isBoundary_halve p (show hint + last + 1 ≤ hint + next by omega)
    have hlow := hb.low_le
    have hhigh := hb.le_high
    refine ⟨Nat.zero_le _, by omega, fun _ => ?_, fun hn => ?_⟩
    · by_cases he : hint + last + 1 < halve p (hint + last + 1) (hint + next)
      · exact hb.holds he
      · have he : halve p (hint + last + 1) (hint + next) - 1 = hint + last := by omega
        rw [he]
        exact hlast
    · by_cases he : halve p (hint + last + 1) (hint + next) < hint + next
      · exact hb.fails he
      · have he : halve p (hint + last + 1) (hint + next) = hint + next := by omega
        rw [he] at hn ⊢
        exact hnext (by omega)
  · rename_i hp
    obtain ⟨hlast, hlt, hle, hnext⟩ := stride_spec (fun d => !p (hint - d)) (hint + 1) n
      (show (!p (hint - 0)) = true by simpa using hp) Nat.one_pos (by omega) (by omega)
    generalize stride (fun d => !p (hint - d)) (hint + 1) n 0 1 = dist at hlast hlt hle hnext ⊢
    obtain ⟨last, next⟩ := dist
    simp only [Bool.not_eq_true', Bool.not_eq_false'] at hlast hlt hle hnext ⊢
    have hb := isBoundary_halve p (show hint + 1 - next ≤ hint - last by omega)
    have hlow := hb.low_le
    have hhigh := hb.le_high
    refine ⟨Nat.zero_le _, by omega, fun hpos => ?_, fun _ => ?_⟩
    · by_cases he : hint + 1 - next < halve p (hint + 1 - next) (hint - last)
      · exact hb.holds he
      · have he : halve p (hint + 1 - next) (hint - last) - 1 = hint - next := by omega
        rw [he]
        exact hnext (by omega)
    · by_cases he : halve p (hint + 1 - next) (hint - last) < hint - last
      · exact hb.fails he
      · have he : halve p (hint + 1 - next) (hint - last) = hint - last := by omega
        rw [he]
        exact hlast

/-- Where a test holds of a front part only, it holds of the leading members and of no others. -/
theorem split_leading (s : Side) {q : α → Bool} {xs : List α} (hq : xs.Pairwise fun x y => q y = true → q x = true) :
    (∀ x ∈ xs.take (leading s q xs), q x = true) ∧ ∀ x ∈ xs.drop (leading s q xs), q x = false := by
  cases xs with
  | nil => simp
  | cons y ys =>
    refine split_of_boundary hq ?_
    cases s with
    | front => simpa [leading] using isBoundary_boundary (fun i => ((y :: ys)[i]?).any q) (Nat.succ_pos ys.length)
    | back =>
      have hhint : (y :: ys).length - 1 < (y :: ys).length := Nat.sub_lt (Nat.succ_pos _) Nat.one_pos
      have hb := isBoundary_boundary (fun i => !((y :: ys)[(y :: ys).length - 1 - i]?).any q) hhint
      simp only [leading, List.getElem?_toArray]
      generalize boundary (fun i => !((y :: ys)[(y :: ys).length - 1 - i]?).any q) (y :: ys).length
        ((y :: ys).length - 1) = n at hb ⊢
      have hn := hb.le_high
      refine ⟨Nat.zero_le _, Nat.sub_le _ _, fun hpos => ?_, fun hlt => ?_⟩
      · have hfails := hb.fails (by omega)
        rw [show (y :: ys).length - n - 1 = (y :: ys).length - 1 - n by omega]
        simpa using hfails
      · have hholds := hb.holds (by omega)
        rw [show (y :: ys).length - n = (y :: ys).length - 1 - (n - 1) by omega]
        simpa using hholds

/-! ## The course of a merge -/

namespace Merge

variable {wins : α → α → Bool} {m : Merge α}

/-- What has been taken is in order and stands in front of what is left; both runs are in order, and the last member
of the run set aside is behind all of the other run. -/
structure Ordered (wins : α → α → Bool) (m : Merge α) : Prop where
  done : InOrder wins m.done.reverse
  aside : InOrder wins m.aside
  other : InOrder wins m.other
  aside_behind : ∀ x ∈ m.done, ∀ y ∈ m.aside, wins y x = false
  other_behind : ∀ x ∈ m.done, ∀ y ∈ m.other, wins y x = false
  last : ∀ x ∈ m.aside.getLast?, ∀ y ∈ m.other, wins y x = true

/-- Once nothing is left to be compared, all members are in order. -/
theorem Ordered.toList (h : m.Ordered wins) (hw : IsWeakOrder wins) (ho : m.isOver = true) :
    InOrder wins m.toList := by
  have hleft : InOrder wins (m.other ++ m.aside) := by
    refine List.pairwise_append.2 ⟨h.other, h.aside, fun y hy x hx => ?_⟩
    simp only [isOver, Bool.or_eq_true, decide_eq_true_eq, List.isEmpty_iff] at ho
    rcases ho with ho | ho
    · match hm : m.aside, ho, hx with
      | [z], _, hx =>
        rw [List.mem_singleton] at hx
        subst hx
        exact hw.asymm (h.last x (by simp [hm]) y hy)
    · rw [ho] at hy
      cases hy
  refine List.pairwise_append.2 ⟨h.done, hleft, fun x hx y hy => ?_⟩
  rw [List.mem_reverse] at hx
  rcases List.mem_append.1 hy with hy | hy
  · exact h.other_behind x hx y hy
  · exact h.aside_behind x hx y hy

/-- A stretch of the run set aside that may stand in front of the other run is taken. -/
theorem Ordered.stretchAside (h : m.Ordered wins) (n : Nat)
    (hn : ∀ x ∈ m.aside.take n, ∀ y ∈ m.other, wins y x = false) :
    Ordered wins { m with aside := m.aside.drop n, done := (m.aside.take n).reverse ++ m.done } := by
  have hparts : (m.aside.take n ++ m.aside.drop n).Pairwise fun x y => wins y x = false := by
    rw [List.take_append_drop]
    exact h.aside
  obtain ⟨htake, hdrop, hcross⟩ := List.pairwise_append.1 hparts
  refine ⟨?_, hdrop, h.other, fun x hx y hy => ?_, fun x hx y hy => ?_, fun x hx y hy => ?_⟩
  · rw [List.reverse_append, List.reverse_reverse]
    exact List.pairwise_append.2 ⟨h.done, htake, fun x hx y hy =>
      h.aside_behind x (List.mem_reverse.1 hx) y (List.mem_of_mem_take hy)⟩
  · rcases List.mem_append.1 hx with hx | hx
    · exact hcross x (List.mem_reverse.1 hx) y hy
    · exact h.aside_behind x hx y (List.mem_of_mem_drop hy)
  · rcases List.mem_append.1 hx with hx | hx
    · exact hn x (List.mem_reverse.1 hx) y hy
    · exact h.other_behind x hx y hy
  · refine h.last x ?_ y hy
    rw [List.getLast?_drop] at hx
    split at hx
    · cases hx
    · exact hx

/-- A stretch of the other run that may stand in front of the run set aside is taken. -/
theorem Ordered.stretchOther (h : m.Ordered wins) (n : Nat)
    (hn : ∀ x ∈ m.other.take n, ∀ y ∈ m.aside, wins y x = false) :
    Ordered wins { m with other := m.other.drop n, done := (m.other.take n).reverse ++ m.done } := by
  have hparts : (m.other.take n ++ m.other.drop n).Pairwise fun x y => wins y x = false := by
    rw [List.take_append_drop]
    exact h.other
  obtain ⟨htake, hdrop, hcross⟩ := List.pairwise_append.1 hparts
  refine ⟨?_, h.aside, hdrop, fun x hx y hy => ?_, fun x hx y hy => ?_, fun x hx y hy => ?_⟩
  · rw [List.reverse_append, List.reverse_reverse]
    exact List.pairwise_append.2 ⟨h.done, htake, fun x hx y hy =>
      h.other_behind x (List.mem_reverse.1 hx) y (List.mem_of_mem_take hy)⟩
  · rcases List.mem_append.1 hx with hx | hx
    · exact hn x (List.mem_reverse.1 hx) y hy
    · exact h.aside_behind x hx y hy
  · rcases List.mem_append.1 hx with hx | hx
    · exact hcross x (List.mem_reverse.1 hx) y hy
    · exact h.other_behind x hx y (List.mem_of_mem_drop hy)
  · exact h.last x hx y (List.mem_of_mem_drop hy)

theorem Ordered.congr {k : Merge α} (h : m.Ordered wins) (hd : k.done = m.done) (ha : k.aside = m.aside)
    (ho : k.other = m.other) : k.Ordered wins := by
  obtain ⟨aside, other, done, _, _, _, _⟩ := k
  simp only at hd ha ho
  subst hd ha ho
  exact ⟨h.done, h.aside, h.other, h.aside_behind, h.other_behind, h.last⟩

/-- What may stand in front of the first member of a run may stand in front of all of it. -/
theorem behind_of_head (hw : IsWeakOrder wins) {x y : α} {xs : List α} (hxs : InOrder wins (x :: xs))
    (hxy : wins x y = false) : ∀ z ∈ x :: xs, wins z y = false := by
  intro z hz
  rcases List.mem_cons.1 hz with rfl | hz
  · exact hxy
  · exact hw.trans_false hxy ((List.pairwise_cons.1 hxs).1 z hz)

/-- The first member of the run set aside is taken. -/
theorem Ordered.firstAside (h : m.Ordered wins) {x : α} {xs : List α} (ha : m.aside = x :: xs)
    (hx : ∀ y ∈ m.other, wins y x = false) : Ordered wins { m with aside := xs, done := x :: m.done } := by
  have hs := h.stretchAside 1 (by simpa [ha] using hx)
  exact hs.congr (by simp [ha]) (by simp [ha]) rfl

/-- The first member of the other run is taken. -/
theorem Ordered.firstOther (h : m.Ordered wins) {y : α} {ys : List α} (ho : m.other = y :: ys)
    (hy : ∀ x ∈ m.aside, wins x y = false) : Ordered wins { m with other := ys, done := y :: m.done } := by
  have hs := h.stretchOther 1 (by simpa [ho] using hy)
  exact hs.congr (by simp [ho]) rfl (by simp [ho])

theorem Ordered.compare (h : m.Ordered wins) (hw : IsWeakOrder wins) : (m.compare wins).Ordered wins := by
  unfold Merge.compare
  split
  · rename_i x xs y ys ha ho
    split
    · rename_i hyx
      refine (h.firstOther ho ?_).congr rfl rfl rfl
      rw [ha]
      exact behind_of_head hw (ha ▸ h.aside) (hw.asymm hyx)
    · rename_i hyx
      refine (h.firstAside ha ?_).congr rfl rfl rfl
      rw [ho]
      exact behind_of_head hw (ho ▸ h.other) (by simpa using hyx)
  · exact h

theorem Ordered.takeAside (h : m.Ordered wins) (hw : IsWeakOrder wins) (s : Side) :
    (m.takeAside s wins).2.Ordered wins := by
  unfold Merge.takeAside
  split
  · rename_i y ys ho
    have hfront : m.aside.Pairwise fun x z => (!wins y z) = true → (!wins y x) = true := by
      refine h.aside.imp fun {x z} hxz hz => ?_
      rw [Bool.not_eq_true'] at hz ⊢
      exact hw.trans_false hxz hz
    obtain ⟨htake, hdrop⟩ := split_leading s hfront
    have hstretch := h.stretchAside (leading s (fun x => !wins y x) m.aside) fun x hx z hz => by
      rw [ho] at hz
      exact behind_of_head hw (ho ▸ h.other) (by simpa using htake x hx) z hz
    dsimp only
    split
    · exact hstretch
    · exact hstretch.firstOther ho fun x hx => hw.asymm (by simpa using hdrop x hx)
  · exact h

theorem Ordered.takeOther (h : m.Ordered wins) (hw : IsWeakOrder wins) (s : Side) :
    (m.takeOther s wins).2.Ordered wins := by
  unfold Merge.takeOther
  split
  · rename_i x xs ha
    have hfront : m.other.Pairwise fun y z => wins z x = true → wins y x = true := by
      refine h.other.imp fun {y z} hyz hz => ?_
      cases hy : wins y x with
      | true => rfl
      | false =>
        rw [hw.trans_false hy hyz] at hz
        cases hz
    obtain ⟨htake, hdrop⟩ := split_leading s hfront
    have hstretch := h.stretchOther (leading s (fun y => wins y x) m.other) fun y hy z hz => by
      rw [ha] at hz
      exact behind_of_head hw (ha ▸ h.aside) (hw.asymm (htake y hy)) z hz
    dsimp only
    split
    · exact hstretch
    · exact hstretch.firstAside ha hdrop
  · exact h

theorem Ordered.adjust (h : m.Ordered wins) (pays : Bool) : (m.adjust pays).Ordered wins := by
  unfold Merge.adjust
  split
  · exact h
  · split
    · exact h.congr rfl rfl rfl
    · exact h.congr rfl rfl rfl

theorem Ordered.gallop (h : m.Ordered wins) (hw : IsWeakOrder wins) (s : Side) : (m.gallop s wins).Ordered wins := by
  have hleft : (m.takeLeft s wins).2.Ordered wins := by
    cases s with
    | front => exact h.takeAside hw .front
    | back => exact h.takeOther hw .back
  have hright : ((m.takeLeft s wins).2.takeRight s wins).2.Ordered wins := by
    unfold takeRight
    split
    · exact hleft
    · exact hleft.takeOther hw .front
    · exact hleft.takeAside hw .back
  rw [Merge.gallop]
  exact hright.adjust _

/-! ## Every merge comes to an end -/

/-- How many members are left. -/
def left (m : Merge α) : Nat := m.aside.length + m.other.length

theorem isOver_eq_false_iff : m.isOver = false ↔ 1 < m.aside.length ∧ m.other ≠ [] := by
  simp [isOver]

theorem left_compare_lt (h : m.isOver = false) : (m.compare wins).left < m.left := by
  obtain ⟨haside, hother⟩ := isOver_eq_false_iff.1 h
  unfold Merge.compare
  split
  · rename_i x xs y ys ha ho
    split <;> simp [left, ha, ho]
  · rename_i hnone
    match ha : m.aside, ho : m.other with
    | [], _ => simp [ha] at haside
    | _ :: _, [] => exact absurd ho hother
    | x :: xs, y :: ys => exact absurd ho (hnone x xs y ys ha)

theorem left_takeAside_lt (h : m.isOver = false) (s : Side) : (m.takeAside s wins).2.left < m.left := by
  obtain ⟨haside, hother⟩ := isOver_eq_false_iff.1 h
  unfold Merge.takeAside
  split
  · rename_i y ys ho
    dsimp only
    split
    · rename_i hover
      simp only [isOver, ho, List.isEmpty_cons, Bool.or_false, decide_eq_true_eq] at hover
      simp only [left]
      omega
    · simp only [left, List.length_drop, ho, List.length_cons]
      omega
  · rename_i ho
    exact absurd ho hother

theorem left_takeOther_lt (h : m.isOver = false) (s : Side) : (m.takeOther s wins).2.left < m.left := by
  obtain ⟨haside, hother⟩ := isOver_eq_false_iff.1 h
  have hpos := List.length_pos_iff.2 hother
  unfold Merge.takeOther
  split
  · rename_i x xs ha
    dsimp only
    split
    · rename_i hover
      have hnone : m.other.drop (leading s (fun y => wins y x) m.other) = [] := by
        simp only [isOver, Bool.or_eq_true, decide_eq_true_eq, List.isEmpty_iff] at hover
        exact hover.resolve_left (by omega)
      simp only [left, hnone, List.length_nil]
      omega
    · simp only [left, List.length_drop, ha, List.length_cons]
      omega
  · rename_i ha
    simp [ha] at haside

theorem left_gallop_lt (h : m.isOver = false) (s : Side) : (m.gallop s wins).left < m.left := by
  have hleft : (m.takeLeft s wins).2.left < m.left := by
    cases s with
    | front => exact left_takeAside_lt h .front
    | back => exact left_takeOther_lt h .back
  have hright : ((m.takeLeft s wins).2.takeRight s wins).2.left ≤ (m.takeLeft s wins).2.left := by
    unfold takeRight
    split
    · exact Nat.le_refl _
    · rename_i ho
      exact Nat.le_of_lt (left_takeOther_lt ho .front)
    · rename_i ho
      exact Nat.le_of_lt (left_takeAside_lt ho .back)
  have hadjust (pays : Bool) (k : Merge α) : (k.adjust pays).left = k.left := by
    unfold adjust
    split
    · rfl
    · split <;> rfl
  rw [Merge.gallop, hadjust]
  omega

/-- A merge that is given time enough ends in order. -/
theorem inOrder_finish (hw : IsWeakOrder wins) (s : Side) {fuel : Nat} (h : m.Ordered wins) (hf : m.left ≤ fuel) :
    InOrder wins (finish s wins fuel m).toList := by
  induction fuel generalizing m with
  | zero =>
    refine h.toList hw ?_
    simp only [left] at hf
    simp only [isOver, Bool.or_eq_true, decide_eq_true_eq]
    omega
  | succ fuel ih =>
    rw [finish]
    split
    · rename_i ho
      exact h.toList hw ho
    · rename_i ho
      rw [Bool.not_eq_true] at ho
      split
      · have hlt : (m.gallop s wins).left < m.left := left_gallop_lt ho s
        exact ih (h.gallop hw s) (by omega)
      · have hlt : (m.compare wins).left < m.left := left_compare_lt ho
        exact ih (h.compare hw) (by omega)

/-- Two runs in order are merged in order, if the first member of the other run wins and the last member of the run
set aside is behind the other run. -/
theorem inOrder_merged (hw : IsWeakOrder wins) (s : Side) (patience : Nat) {aside other : List α}
    (ha : InOrder wins aside) (ho : InOrder wins other) (hfirst : ∀ y ∈ other.head?, ∀ x ∈ aside, wins x y = false)
    (hlast : ∀ x ∈ aside.getLast?, ∀ y ∈ other, wins y x = true) :
    InOrder wins (merged s wins patience aside other).toList := by
  refine inOrder_finish hw s ⟨?_, ha, ?_, ?_, ?_, ?_⟩ ?_
  · cases other <;> simp [InOrder]
  · exact ho.tail
  · simpa using hfirst
  · cases other with
    | nil => simp
    | cons y ys => simpa using (List.pairwise_cons.1 ho).1
  · exact fun x hx y hy => hlast x hx y (List.mem_of_mem_tail hy)
  · simp only [left, List.length_tail]
    omega

end Merge

/-! ## Joining -/

variable {before : α → α → Bool} {left right : List α}

/-- The members of the left run that stay are behind none of the right run; the others are behind its first. -/
theorem staying_spec (h : IsWeakOrder before) (hl : InOrder before left) (hr : InOrder before right) :
    (∀ x ∈ left.take (staying before left right), ∀ y ∈ right, before y x = false) ∧
      ∀ x ∈ left.drop (staying before left right), ∀ y ∈ right.head?, before y x = true := by
  cases right with
  | nil => simp
  | cons y ys =>
    have hfront : left.Pairwise fun x z => (!before y z) = true → (!before y x) = true := by
      refine hl.imp fun {x z} hxz hz => ?_
      rw [Bool.not_eq_true'] at hz ⊢
      exact h.trans_false hxz hz
    obtain ⟨htake, hdrop⟩ := split_leading .front hfront
    exact ⟨fun x hx => Merge.behind_of_head h hr (by simpa using htake x hx),
      fun x hx => by simpa using hdrop x hx⟩

/-- The members of the right run that move come before the last of the left run; the others before none of it. -/
theorem moving_spec (h : IsWeakOrder before) (hl : InOrder before left) (hr : InOrder before right) :
    (∀ y ∈ right.take (moving before left right), ∀ x ∈ left.getLast?, before y x = true) ∧
      ∀ y ∈ right.drop (moving before left right), ∀ x ∈ left, before y x = false := by
  rcases left.eq_nil_or_concat with rfl | ⟨xs, x, rfl⟩
  · simp
  · have hback : right.reverse.Pairwise fun y z => (!before z x) = true → (!before y x) = true := by
      refine List.pairwise_reverse.2 (hr.imp fun {z y} hzy hz => ?_)
      rw [Bool.not_eq_true'] at hz ⊢
      exact h.trans_false hz hzy
    obtain ⟨htake, hdrop⟩ := split_leading .back hback
    rw [List.take_reverse] at htake
    rw [List.drop_reverse] at hdrop
    rw [List.concat_eq_append] at hl ⊢
    simp only [moving, List.getLast?_concat, Option.elim_some, Option.mem_def, Option.some.injEq, forall_eq']
    refine ⟨fun y hy => by simpa using hdrop y (List.mem_reverse.2 hy), fun y hy z hz => ?_⟩
    have hyx : before y x = false := by simpa using htake y (List.mem_reverse.2 hy)
    rcases List.mem_append.1 hz with hz | hz
    · exact h.trans_false ((List.pairwise_append.1 hl).2.2 z hz x (List.mem_singleton_self x)) hyx
    · rw [List.mem_singleton.1 hz]
      exact hyx

/-- Two runs in order where every member moves give one in order. -/
theorem inOrder_joinMoving (h : IsWeakOrder before) (patience : Nat) (hl : InOrder before left)
    (hr : InOrder before right) (hfirst : ∀ x ∈ left, ∀ y ∈ right.head?, before y x = true)
    (hlast : ∀ y ∈ right, ∀ x ∈ left.getLast?, before y x = true) :
    InOrder before (joinMoving before patience left right).1 := by
  unfold joinMoving
  split
  · rename_i hempty
    rw [Bool.or_eq_true, List.isEmpty_iff, List.isEmpty_iff] at hempty
    rcases hempty with rfl | rfl
    · exact hr
    · rwa [List.append_nil]
  · split
    · exact Merge.inOrder_merged h .front patience hl hr (fun y hy x hx => h.asymm (hfirst x hx y hy))
        fun x hx y hy => hlast y hy x hx
    · refine List.pairwise_reverse.2 (Merge.inOrder_merged h.flip .back patience (List.pairwise_reverse.2 hr)
        (List.pairwise_reverse.2 hl) (fun x hx y hy => ?_) fun y hy x hx => ?_)
      · rw [List.head?_reverse] at hx
        exact h.asymm (hlast y (List.mem_reverse.1 hy) x hx)
      · rw [List.getLast?_reverse] at hy
        exact hfirst x (List.mem_reverse.1 hx) y hy

/-- Two runs in order are joined in order. -/
theorem inOrder_join (h : IsWeakOrder before) (patience : Nat) (hl : InOrder before left)
    (hr : InOrder before right) : InOrder before (join before patience left right).1 := by
  obtain ⟨hstay, hfirst⟩ := staying_spec h hl hr
  generalize hi : staying before left right = i at hstay hfirst
  have hparts := hl
  rw [← List.take_append_drop i left] at hparts
  obtain ⟨hleft, hleft', hleftCross⟩ := List.pairwise_append.1 hparts
  obtain ⟨hlast, hrest⟩ := moving_spec h hleft' hr
  generalize hj : moving before (left.drop i) right = j at hlast hrest
  have hparts := hr
  rw [← List.take_append_drop j right] at hparts
  obtain ⟨hright, hright', hrightCross⟩ := List.pairwise_append.1 hparts
  have hmiddle := inOrder_joinMoving h patience hleft' hright (fun x hx y hy => hfirst x hx y (by
    rw [List.head?_take] at hy
    split at hy
    · cases hy
    · exact hy)) hlast
  simp only [join, hi, hj]
  have hmem {z : α} : z ∈ (joinMoving before patience (left.drop i) (right.take j)).1 ↔
      z ∈ left.drop i ∨ z ∈ right.take j := by
    rw [(perm_joinMoving before patience _ _).mem_iff, List.mem_append]
  refine List.pairwise_append.2 ⟨hleft, List.pairwise_append.2 ⟨hmiddle, hright', fun x hx y hy => ?_⟩,
    fun x hx y hy => ?_⟩
  · rcases hmem.1 hx with hx | hx
    · exact hrest y hy x hx
    · exact hrightCross x hx y hy
  · rcases List.mem_append.1 hy with hy | hy
    · rcases hmem.1 hy with hy | hy
      · exact hleftCross x hx y hy
      · exact hstay x hx y (List.mem_of_mem_take hy)
    · exact hstay x hx y (List.mem_of_mem_drop hy)

end GoalPlanner.Ranking
