import GoalPlanner.Proofs.Agreement
import Mathlib.Data.List.Pairwise

/-!
# Neighbours of a state

The states listed by `Facts.oneChange` are the given one with one condition set to a value that it does not have
(`Facts.mem_oneChange`). Setting one condition is seen at this condition only (`Facts.get?_set_ne_iff`), so states made
by changes of different conditions, or by different changes of one, are told apart. Hence the neighbours of a state, up
to the order of entries, are all states with the same conditions of which exactly one has another value; each is listed
once, and there are twice as many as conditions (`Facts.oneChange_exact`).
-/

namespace GoalPlanner.Facts

variable {s : Facts} {n m : Name} {v w : Truth}

/-! ## One change -/

/-- A changed state differs from the given one at the condition that was changed, and nowhere else. -/
theorem get?_set_ne_iff (hn : s.get? n = some w) (hv : v ≠ w) : (s.set n v).get? m ≠ s.get? m ↔ m = n := by
  rw [Table.get?_set]
  constructor
  · intro hm
    by_contra hne
    exact hm (if_neg (Ne.symm hne))
  · rintro rfl
    rw [if_pos rfl, hn]
    exact fun h => hv (Option.some.inj h)

theorem keys_set_of_get? (hn : s.get? n = some w) (v : Truth) : (s.set n v).keys = s.keys := by
  rw [Table.keys_set, if_pos (Table.mem_keys_iff.2 (by rw [hn]; rfl))]

theorem not_alike_of_ne {t u : Facts} (h : t.get? n ≠ u.get? n) : t.alike u = false := by
  rw [← Bool.not_eq_true, Table.alike_iff]
  exact fun hall => h (hall n)

/-! ## The list of neighbours -/

/-- The neighbours of a state are the states made by one change of it. -/
theorem mem_oneChange {t : Facts} : t ∈ s.oneChange ↔ ∃ n v w, s.get? n = some w ∧ v ≠ w ∧ t = s.set n v := by
  simp only [oneChange, List.mem_flatMap, List.mem_map, List.mem_filter, bne_iff_ne, Prod.exists]
  constructor
  · rintro ⟨n, w, he, v, ⟨-, hv⟩, rfl⟩
    exact ⟨n, v, w, Table.get?_eq_some_iff.2 he, hv, rfl⟩
  · rintro ⟨n, v, w, hn, hv, rfl⟩
    exact ⟨n, w, Table.get?_eq_some_iff.1 hn, v, ⟨Truth.mem_all v, hv⟩, rfl⟩

/-- There are two other values for each condition. -/
theorem length_oneChange (s : Facts) : s.oneChange.length = 2 * s.size := by
  have others (w : Truth) : (Truth.all.filter fun v => v != w).length = 2 := by
    cases w <;> rfl
  simp [oneChange, List.length_flatMap, others, Table.size, Nat.mul_comm]

/-- No two neighbours of a state are alike. -/
theorem pairwise_oneChange (s : Facts) : s.oneChange.Pairwise fun t u => t.alike u = false := by
  rw [oneChange, List.pairwise_flatMap]
  constructor
  · -- changes of one condition are told apart by its value
    rintro ⟨n, w⟩ -
    have hnodup : (Truth.all.filter fun v => v != w).Nodup := by
      cases w <;> decide
    refine List.pairwise_map.2 (hnodup.imp fun {v v'} hvv => not_alike_of_ne (n := n) ?_)
    rw [Table.get?_set, Table.get?_set, if_pos rfl, if_pos rfl]
    exact fun h => hvv (Option.some.inj h)
  · -- changes of two conditions are told apart at the first one, where the second leaves the value of the state
    refine (List.pairwise_map.1 s.keys_nodup).imp_of_mem ?_
    rintro ⟨n, w⟩ ⟨m, w'⟩ hn - hnm t ht u hu
    obtain ⟨v, hv, rfl⟩ := List.mem_map.1 ht
    obtain ⟨v', -, rfl⟩ := List.mem_map.1 hu
    have hvw : v ≠ w := bne_iff_ne.1 (List.mem_filter.1 hv).2
    refine not_alike_of_ne (n := n) ?_
    rw [Table.get?_set s m, if_neg (Ne.symm hnm)]
    exact (get?_set_ne_iff (Table.get?_eq_some_iff.2 hn) hvw).2 rfl

/-- A state with the same conditions as another, of which exactly one has another value, is made by one change. -/
theorem exists_oneChange_alike {t : Facts} (hkeys : ∀ n, n ∈ t.keys ↔ n ∈ s.keys)
    (hone : ∃! n, t.get? n ≠ s.get? n) : ∃ u ∈ s.oneChange, t.alike u = true := by
  obtain ⟨n, hn, hrest⟩ := hone
  have hnone : t.get? n = none ↔ s.get? n = none := by
    rw [Table.get?_eq_none_iff, Table.get?_eq_none_iff, hkeys n]
  -- one of the two values is there, hence both are
  obtain ⟨v, hv⟩ : ∃ v, t.get? n = some v :=
    Option.ne_none_iff_exists'.1 fun h => hn (h.trans (hnone.1 h).symm)
  obtain ⟨w, hw⟩ : ∃ w, s.get? n = some w :=
    Option.ne_none_iff_exists'.1 fun h => hn ((hnone.2 h).trans h.symm)
  have hvw : v ≠ w := fun h => hn (by rw [hv, hw, h])
  refine ⟨s.set n v, mem_oneChange.2 ⟨n, v, w, hw, hvw, rfl⟩, Table.alike_iff.2 fun m => ?_⟩
  rw [Table.get?_set]
  split
  · rename_i hnm
    rw [← hnm, hv]
  · rename_i hnm
    by_contra hm
    exact hnm (hrest m hm).symm

/-- A state has twice as many neighbours as conditions. No two of them are alike, none is like the state, which is a
value and stays as it is, and each has the same conditions. Up to the order of entries, the neighbours are exactly the
states with the same conditions that differ from the given one in exactly one of them. -/
theorem oneChange_exact (s : Facts) :
    s.oneChange.length = 2 * s.size ∧
    s.oneChange.Pairwise (fun t u => t.alike u = false) ∧
    (∀ t ∈ s.oneChange, t.alike s = false ∧ t.keys = s.keys ∧ ∃! n, t.get? n ≠ s.get? n) ∧
    ∀ t : Facts, ((∀ n, n ∈ t.keys ↔ n ∈ s.keys) ∧ ∃! n, t.get? n ≠ s.get? n) ↔
      ∃ u ∈ s.oneChange, t.alike u = true := by
  have each : ∀ t ∈ s.oneChange, t.alike s = false ∧ t.keys = s.keys ∧ ∃! n, t.get? n ≠ s.get? n := by
    intro t ht
    obtain ⟨n, v, w, hn, hv, rfl⟩ := mem_oneChange.1 ht
    exact ⟨not_alike_of_ne ((get?_set_ne_iff hn hv).2 rfl), keys_set_of_get? hn v, n, (get?_set_ne_iff hn hv).2 rfl,
      fun m => (get?_set_ne_iff hn hv).1⟩
  refine ⟨length_oneChange s, pairwise_oneChange s, each, fun t => ⟨fun h => exists_oneChange_alike h.1 h.2, ?_⟩⟩
  rintro ⟨u, hu, htu⟩
  obtain ⟨-, hkeys, hone⟩ := each u hu
  have hget := Table.alike_iff.1 htu
  refine ⟨fun n => ?_, by simpa only [hget] using hone⟩
  rw [← hkeys, Table.mem_keys_iff, Table.mem_keys_iff, hget n]

example : (oneChange (Table.ofList [("a", .yes), ("b", .unknown)])).map (fun t => t.entries.map Prod.snd) =
    [[.no, .unknown], [.unknown, .unknown], [.yes, .yes], [.yes, .no]] := by
  decide

end GoalPlanner.Facts
