import GoalPlanner.Plan.Ranking
import GoalPlanner.Proofs.Plan.Ranking.Merge
import Mathlib

/-!
# Plans are ranked

Where a comparison is consistent, the runs that wait are in order at every step of sorting, whichever of them are
joined first, so the list comes out in order (`inOrder_sort`). With exact numbers the comparison of plans is
consistent: it is that of what they rank by (`Plan.outranks_iff`). So plans come out by rank (`pairwise_rank`), and
lists of plans that rank by the same do so after they have been ranked (`map_standing_rank`).
-/

namespace GoalPlanner

/-! ## Sorting -/

namespace Ranking

variable {α : Type} {before : α → α → Bool}

theorem inOrder_collapse (h : IsWeakOrder before) (l : Nat) {last : Pending α} (patience : Nat)
    {ps : List (Pending α)} (hlast : InOrder before last.members) (hps : ∀ p ∈ ps, InOrder before p.members) :
    InOrder before (collapse before l last patience ps).1.members ∧
      ∀ p ∈ (collapse before l last patience ps).2.1, InOrder before p.members := by
  induction ps generalizing last patience with
  | nil => exact ⟨hlast, hps⟩
  | cons p ps ih =>
    rw [List.forall_mem_cons] at hps
    rw [collapse]
    split
    · exact ih _ (inOrder_join h patience hps.1 hlast) hps.2
    · exact ⟨hlast, List.forall_mem_cons.2 hps⟩

theorem inOrder_push (h : IsWeakOrder before) (n : Nat) {members : List α} (patience : Nat) {ps : List (Pending α)}
    (hm : InOrder before members) (hps : ∀ p ∈ ps, InOrder before p.members) :
    ∀ p ∈ (push before n members patience ps).1, InOrder before p.members := by
  match ps with
  | [] => exact List.forall_mem_singleton.2 hm
  | last :: ps =>
    rw [List.forall_mem_cons] at hps
    obtain ⟨hlast, hrest⟩ := inOrder_collapse h (levelBetween n last members) patience hps.1 hps.2
    exact List.forall_mem_cons.2 ⟨hm, List.forall_mem_cons.2 ⟨hlast, hrest⟩⟩

theorem inOrder_pushAll (h : IsWeakOrder before) (n fuel : Nat) {ps : List (Pending α)} (patience : Nat) (xs : List α)
    (hps : ∀ p ∈ ps, InOrder before p.members) :
    ∀ p ∈ (pushAll before n fuel ps patience xs).1, InOrder before p.members := by
  induction fuel generalizing ps patience xs with
  | zero => exact hps
  | succ fuel ih =>
    match xs with
    | [] => exact hps
    | x :: xs => exact ih _ _ (inOrder_push h n patience (inOrder_nextRun h _ _) hps)

theorem inOrder_joinAll (h : IsWeakOrder before) {last : List α} (patience : Nat) {ps : List (List α)}
    (hlast : InOrder before last) (hps : ∀ p ∈ ps, InOrder before p) :
    InOrder before (joinAll before last patience ps) := by
  fun_induction joinAll before last patience ps with
  | case1 => exact hlast
  | case2 last patience p => exact inOrder_join h patience (hps p (List.mem_singleton_self p)) hlast
  | case3 last patience p q ps _ joined patience' hj ih =>
    simp only [List.forall_mem_cons] at hps
    have hjoin := inOrder_join h patience hps.2.1 hps.1
    rw [hj] at hjoin
    exact ih hlast (List.forall_mem_cons.2 ⟨hjoin, hps.2.2⟩)
  | case4 last patience p q ps _ joined patience' hj ih =>
    rw [List.forall_mem_cons] at hps
    have hjoin := inOrder_join h patience hps.1 hlast
    rw [hj] at hjoin
    exact ih hjoin hps.2

/-- Sorting puts in order. -/
theorem inOrder_sort (h : IsWeakOrder before) (xs : List α) : InOrder before (sort before xs) := by
  have hps := inOrder_pushAll h xs.length xs.length Merge.worthwhile xs (List.forall_mem_nil _)
  unfold sort
  split
  · exact List.Pairwise.nil
  · rename_i last ps patience hp
    rw [hp, List.forall_mem_cons] at hps
    exact inOrder_joinAll h patience hps.1 (List.forall_mem_map.2 hps.2)

end Ranking

/-! ## Plans -/

section

variable {κ : Type} [Cost κ] {ps : List (Plan κ)}

theorem perm_rank (ps : List (Plan κ)) : (rank ps).Perm ps := Ranking.perm_sort Plan.outranks ps

theorem mem_rank {p : Plan κ} : p ∈ rank ps ↔ p ∈ ps := (perm_rank ps).mem_iff

theorem rank_of_length_le_one (h : ps.length ≤ 1) : rank ps = ps :=
  match ps with
  | [] => List.perm_nil.1 (perm_rank [])
  | [p] => List.perm_singleton.1 (perm_rank [p])
  | _ :: _ :: _ => absurd h (by simp)

theorem head?_rank_eq_none_iff : (rank ps).head? = none ↔ ps = [] := by
  rw [List.head?_eq_none_iff, List.eq_nil_iff_forall_not_mem, List.eq_nil_iff_forall_not_mem]
  exact forall_congr' fun p => not_congr mem_rank

end

/-- What plans rank by: their loss, then the name of the goal. -/
def Plan.standing (p : Plan Rat) : ℚ ×ₗ String := toLex (-p.netValue, p.goal.name)

theorem Plan.standing_inj {p q : Plan Rat} :
    p.standing = q.standing ↔ p.netValue = q.netValue ∧ p.goal.name = q.goal.name := by
  simp [Plan.standing]

theorem Plan.outranks_iff {p q : Plan Rat} : p.outranks q = true ↔ p.standing < q.standing := by
  rw [Plan.outranks, Plan.standing, Plan.standing, Prod.Lex.toLex_lt_toLex]
  split
  · rename_i he
    simp only [beq_iff_eq] at he
    simp [he]
  · rename_i hne
    simp only [beq_iff_eq] at hne
    simp [hne]

theorem isWeakOrder_outranks : IsWeakOrder (Plan.outranks (κ := Rat)) where
  irrefl p := by simp [← Bool.not_eq_true, Plan.outranks_iff]
  trans h k := Plan.outranks_iff.2 (lt_trans (Plan.outranks_iff.1 h) (Plan.outranks_iff.1 k))
  trans_false h k := by
    simp only [← Bool.not_eq_true, Plan.outranks_iff, not_lt] at h k ⊢
    exact le_trans h k

/-- Plans come out by rank. -/
theorem pairwise_rank (ps : List (Plan Rat)) : (rank ps).Pairwise fun p q => p.standing ≤ q.standing := by
  refine (Ranking.inOrder_sort isWeakOrder_outranks ps).imp fun h => ?_
  rwa [← Bool.not_eq_true, Plan.outranks_iff, not_lt] at h

/-- What ranks no lower than anything else ranks first. -/
theorem map_standing_head?_rank {ps : List (Plan Rat)} {r : ℚ ×ₗ String} (hr : r ∈ ps.map Plan.standing)
    (hle : ∀ t ∈ ps.map Plan.standing, r ≤ t) : (rank ps).head?.map Plan.standing = some r := by
  obtain ⟨p, hp, rfl⟩ := List.mem_map.1 hr
  rw [List.forall_mem_map] at hle
  cases hx : rank ps with
  | nil =>
    rw [← mem_rank, hx] at hp
    cases hp
  | cons x xs =>
    have hsorted := pairwise_rank ps
    rw [hx, List.pairwise_cons] at hsorted
    have hxp : x.standing ≤ p.standing := by
      rw [← mem_rank, hx] at hp
      rcases List.mem_cons.1 hp with rfl | hp
      · exact le_refl _
      · exact hsorted.1 p hp
    exact congrArg some (le_antisymm hxp (hle x (mem_rank.1 (hx ▸ List.mem_cons_self))))

/-- Plans that rank by the same things do so in the same order. -/
theorem map_standing_rank {ps qs : List (Plan Rat)} (h : ps.map Plan.standing = qs.map Plan.standing) :
    (rank ps).map Plan.standing = (rank qs).map Plan.standing := by
  have hperm : ((rank ps).map Plan.standing).Perm ((rank qs).map Plan.standing) := by
    refine ((perm_rank ps).map _).trans ?_
    rw [h]
    exact ((perm_rank qs).map _).symm
  exact hperm.eq_of_pairwise (fun _ _ _ _ => le_antisymm) (List.pairwise_map.2 (pairwise_rank ps))
    (List.pairwise_map.2 (pairwise_rank qs))

end GoalPlanner
