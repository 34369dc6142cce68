import GoalPlanner.Plan.Trim

/-!
# What trimming leaves

A sweep leaves some of the actions, in their order (`Sweep.sublist_apply`). Trimming leaves some of the actions
(`sublist_trimBy`), and what achieved the goal before still achieves it (`achieves_trimBy`).
-/

namespace GoalPlanner

variable {κ : Type} [Cost κ]

/-- A sequence achieves a goal if it can be carried out and leads to where the goal is reached. -/
theorem achieves_iff {s : Facts} {as : List (Action κ)} {g : Goal κ} :
    achieves s as g = true ↔ ∃ t, simulate s as = some t ∧ g.reached t = true := by
  unfold achieves
  cases simulate s as <;> simp

theorem achieves_cons {s : Facts} {a : Action κ} {as : List (Action κ)} {g : Goal κ} :
    achieves s (a :: as) g = true ↔ a.available s = true ∧ achieves (a.apply s) as g = true := by
  rw [achieves, achieves, simulate]
  cases a.available s <;> simp

namespace Sweep

theorem sublist_dropIdle (g : Goal κ) (as : List (Action κ)) : (dropIdle g as).Sublist as := by
  unfold dropIdle
  induction as with
  | nil => exact List.Sublist.slnil
  | cons a as ih =>
    rw [List.foldr_cons, keepIfNeeded]
    split
    · exact ih.cons a
    · exact ih.cons_cons a

theorem sublist_keepProgress (g : Goal κ) (s : Facts) (as : List (Action κ)) :
    (keepProgress g s as).Sublist as := by
  induction as generalizing s with
  | nil => exact List.Sublist.slnil
  | cons a as ih =>
    rw [keepProgress]
    split
    · exact (ih _).cons_cons a
    · exact (ih _).cons a

/-- A sweep leaves some of the actions, in their order. -/
theorem sublist_apply (w : Sweep) (s : Facts) (g : Goal κ) (as : List (Action κ)) : (w.apply s g as).Sublist as := by
  cases w with
  | backward => exact sublist_dropIdle g as
  | forward => exact sublist_keepProgress g s as

theorem adopt?_eq_some_iff {w : Sweep} {s : Facts} {g : Goal κ} {as kept : List (Action κ)} :
    w.adopt? s g as = some kept ↔
      w.apply s g as = kept ∧ kept.length < as.length ∧ achieves s kept g = true := by
  simp only [adopt?, Option.ite_none_right_eq_some, Bool.and_eq_true, decide_eq_true_eq, Option.some.injEq]
  constructor
  · rintro ⟨h, rfl⟩
    exact ⟨rfl, h⟩
  · rintro ⟨rfl, h⟩
    exact ⟨h, rfl⟩

end Sweep

theorem sublist_trimBy (s : Facts) (g : Goal κ) (ws : List Sweep) (as : List (Action κ)) :
    (trimBy s g ws as).1.Sublist as := by
  induction ws generalizing as with
  | nil => exact List.Sublist.refl as
  | cons w ws ih =>
    rw [trimBy]
    cases h : w.adopt? s g as with
    | none => exact ih as
    | some kept =>
      obtain ⟨rfl, -, -⟩ := Sweep.adopt?_eq_some_iff.1 h
      exact (ih _).trans (w.sublist_apply s g as)

/-- Trimming keeps a goal achieved. -/
theorem achieves_trimBy {s : Facts} {g : Goal κ} (ws : List Sweep) {as : List (Action κ)}
    (h : achieves s as g = true) : achieves s (trimBy s g ws as).1 g = true := by
  induction ws generalizing as with
  | nil => exact h
  | cons w ws ih =>
    rw [trimBy]
    cases hw : w.adopt? s g as with
    | none => exact ih h
    | some kept => exact ih (Sweep.adopt?_eq_some_iff.1 hw).2.2

end GoalPlanner
