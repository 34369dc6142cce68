import GoalPlanner.Plan.Find
import Mathlib

/-!
# States that agree on some conditions

Tables that answer alike have the same entries up to their order (`Table.alike_iff`, `Table.entries_perm`). Two states
may agree on the conditions of a set and say anything of the others (`Set.EqOn`). As long as requirements and effects
speak of conditions in the set only (`Facts.Within`), nothing tells the states apart: they meet the same requirements
(`Facts.meets_congr`, `Snapshot.meets_congr`), they agree again after effects (`Facts.eqOn_merge`,
`Snapshot.eqOn_merge`), and effects change something in both or in neither (`Facts.alike_merge_congr`).
-/

namespace GoalPlanner

/-! ## Tables -/

namespace Table

variable {α β : Type}

theorem nodup_entries (t : Table α β) : t.entries.Nodup := .of_map Prod.fst t.distinct

variable [DecidableEq α] {s t : Table α β}

/-- Tables that answer alike have the same entries up to their order. -/
theorem entries_perm (h : ∀ k, s.get? k = t.get? k) : s.entries.Perm t.entries := by
  rw [List.perm_ext_iff_of_nodup s.nodup_entries t.nodup_entries]
  rintro ⟨k, v⟩
  rw [← get?_eq_some_iff, ← get?_eq_some_iff, h]

/-- Tables are alike if they answer alike. -/
theorem alike_iff [DecidableEq β] : s.alike t = true ↔ ∀ k, s.get? k = t.get? k := by
  simp only [alike, Bool.and_eq_true, beq_iff_eq, List.all_eq_true, Table.size]
  constructor
  · rintro ⟨hsize, hall⟩ k
    have hsub : s.entries ⊆ t.entries := fun e he => get?_eq_some_iff.1 (hall e he)
    -- as many entries, so the entries of the one are all those of the other
    have hperm : s.entries.Perm t.entries :=
      (List.subperm_of_subset s.nodup_entries hsub).perm_of_length_le (le_of_eq hsize.symm)
    apply Option.ext
    intro v
    rw [get?_eq_some_iff, get?_eq_some_iff, hperm.mem_iff]
  · intro h
    exact ⟨(entries_perm h).length_eq, fun e he => by rw [← h, get?_eq_some_iff]; exact he⟩

theorem get?_foldl_erase (t : Table α β) (es : List (α × β)) (k : α) :
    (es.foldl (fun t e => t.erase e.1) t).get? k = if k ∈ es.map Prod.fst then none else t.get? k := by
  induction es generalizing t with
  | nil => simp
  | cons e es ih =>
    rw [List.foldl_cons, ih, get?_erase]
    by_cases he : e.1 = k
    · simp [he]
    · have hmem : k ∈ (e :: es).map Prod.fst ↔ k ∈ es.map Prod.fst := by
        rw [List.map_cons, List.mem_cons, or_iff_right (Ne.symm he)]
      rw [if_neg he, if_congr hmem rfl rfl]

end Table

/-! ## Facts -/

namespace Facts

/-- Facts that speak of conditions in a set only. -/
def Within (K : Set Name) (r : Facts) : Prop := ∀ n ∈ r.keys, n ∈ K

variable {K : Set Name} {r r' s t : Facts}

theorem Within.mem (h : Within K r) {n : Name} {v : Truth} (hn : r.get? n = some v) : n ∈ K :=
  h n (Table.mem_keys_iff.2 (by rw [hn]; rfl))

theorem Within.mem_of_entry (h : Within K r) {e : Name × Truth} (he : e ∈ r.entries) : e.1 ∈ K :=
  h e.1 (List.mem_map_of_mem he)

theorem Within.get?_eq_none (h : Within K r) {n : Name} (hn : n ∉ K) : r.get? n = none :=
  Table.get?_eq_none_iff.2 fun hk => hn (h n hk)

/-- States that agree on the conditions of a requirement have the required values together. -/
theorem required_congr {x y : Name → Option Truth} (h : Set.EqOn x y K) (hr : r.alike r' = true) (hK : Within K r) :
    (∀ n v, r.get? n = some v → x n = some v) ↔ ∀ n v, r'.get? n = some v → y n = some v := by
  rw [Table.alike_iff] at hr
  refine forall_congr' fun n => forall_congr' fun v => ?_
  rw [hr]
  refine imp_congr_right fun hn => ?_
  rw [h (hK.mem ((hr n).trans hn))]

/-- What is said of one condition leaves the others alone. -/
theorem eqOn_set (s : Facts) (k : Name) (v : Truth) : Set.EqOn (s.set k v).get? s.get? {n | n ≠ k} := by
  intro n hn
  rw [Table.get?_set, if_neg (Ne.symm hn)]

theorem eqOn_erase (s : Facts) (k : Name) : Set.EqOn (s.erase k).get? s.get? {n | n ≠ k} := by
  intro n hn
  rw [Table.get?_erase, if_neg (Ne.symm hn)]

theorem meets_congr (h : Set.EqOn s.get? t.get? K) (hr : r.alike r' = true) (hK : Within K r) :
    s.meets r = t.meets r' := by
  rw [Bool.eq_iff_iff, meets_iff, meets_iff]
  exact required_congr h hr hK

theorem eqOn_merge (h : Set.EqOn s.get? t.get? K) (hr : r.alike r' = true) :
    Set.EqOn (s.merge r).get? (t.merge r').get? K := by
  intro n hn
  rw [Table.get?_merge, Table.get?_merge, h hn, Table.alike_iff.1 hr]

/-- Effects leave two states as they are, or change something in both. -/
theorem alike_merge_congr (h : Set.EqOn s.get? t.get? K) (hr : r.alike r' = true) (hK : Within K r) :
    (s.merge r).alike s = (t.merge r').alike t := by
  rw [Table.alike_iff] at hr
  rw [Bool.eq_iff_iff, Table.alike_iff, Table.alike_iff]
  refine forall_congr' fun n => ?_
  rw [Table.get?_merge, Table.get?_merge, ← hr]
  by_cases hn : n ∈ K
  · rw [h hn]
  · simp [hK.get?_eq_none hn]

end Facts

/-! ## Snapshots -/

namespace Snapshot

variable {K : Set Name} {m n : Snapshot} {r r' : Facts}

/-- Effects decide what is said of the conditions that they mention. -/
theorem get?_merge_eq_or (m : Snapshot) (r : Facts) (c : Name) : (m.merge r).get? c = (r.get? c).or (m.get? c) := by
  rw [get?_merge (f := ⟨m.entries, nodup_of_sorted m.sorted⟩) (fun _ => rfl), Table.get?_merge]
  rfl

theorem meets_congr (h : Set.EqOn m.get? n.get? K) (hr : r.alike r' = true) (hK : Facts.Within K r) :
    m.meets r = n.meets r' := by
  rw [Bool.eq_iff_iff, meets_iff, meets_iff]
  exact Facts.required_congr h hr hK

theorem eqOn_merge (h : Set.EqOn m.get? n.get? K) (hr : r.alike r' = true) :
    Set.EqOn (m.merge r).get? (n.merge r').get? K := by
  intro c hc
  rw [get?_merge_eq_or, get?_merge_eq_or, h hc, Table.alike_iff.1 hr]

/-- Effects within a set leave the other conditions alone. -/
theorem eqOn_compl_merge (m : Snapshot) (hK : Facts.Within K r) : Set.EqOn (m.merge r).get? m.get? Kᶜ := by
  intro c hc
  rw [get?_merge_eq_or, hK.get?_eq_none hc, Option.none_or]

end Snapshot

/-! ## Actions and goals -/

section

variable {κ : Type} [Cost κ]

/-- Actions of one name and cost that require and bring about the same, in whatever order they list it. -/
structure Action.Alike (a b : Action κ) : Prop where
  name : a.name = b.name
  cost : a.cost = b.cost
  pre : a.pre.alike b.pre = true
  eff : a.eff.alike b.eff = true

theorem Action.Alike.refl (a : Action κ) : a.Alike a :=
  ⟨rfl, rfl, Table.alike_iff.2 fun _ => rfl, Table.alike_iff.2 fun _ => rfl⟩

/-- Goals count the same requirements as unmet in snapshots that agree on what they require. -/
theorem Goal.unmet_congr {K : Set Name} {m n : Snapshot} {g h : Goal κ} (hmn : Set.EqOn m.get? n.get? K)
    (hg : g.pre.alike h.pre = true) (hK : Facts.Within K g.pre) : g.unmet m = h.unmet n := by
  rw [Goal.unmet, Goal.unmet, ← (Table.entries_perm (Table.alike_iff.1 hg)).countP_eq]
  refine List.countP_congr fun e he => ?_
  rw [hmn (hK.mem_of_entry he)]

end

end GoalPlanner
