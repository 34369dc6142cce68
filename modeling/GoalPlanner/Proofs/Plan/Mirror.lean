import GoalPlanner.Proofs.Agreement
import GoalPlanner.Proofs.Plan.Choice
import GoalPlanner.Proofs.Plan.Limit
import GoalPlanner.Proofs.Search.Mirror
import Mathlib

/-!
# Plans speak of what is mentioned only

Two states that agree on the conditions of a set, actions and goals that are alike and mention no other conditions: the
searches from them mirror each other, for in every snapshot they come to, the other conditions are as they were at the
start (`Snapshot.Views`, `Goal.problem_mirrors`). The sweeps of trimming see no difference either
(`forall₂_trimBy`), so the plans have the same shape, and the searches are cut short together (`find_mirrors`,
`map_shape_eq`). Two cases of this:

* the order in which actions, requirements, effects and the conditions of a state are listed does not matter
  (`find_reordered`);
* a condition that nothing mentions does not matter, and is never asked for (`find_unmentioned`).
-/

namespace GoalPlanner

variable {κ : Type} [Cost κ] {K : Set Name} {s t : Facts} {as bs : List (Action κ)} {g h : Goal κ}

/-! ## Steps that are alike -/

/-- Actions that are alike and mention conditions in a set only. -/
structure Action.AlikeWithin (K : Set Name) (a b : Action κ) : Prop extends a.Alike b where
  pre_within : a.pre.Within K
  eff_within : a.eff.Within K

/-- Goals that require the same, in whatever order they list it, and mention conditions in a set only. -/
structure Goal.AlikeWithin (K : Set Name) (g h : Goal κ) : Prop where
  pre : g.pre.alike h.pre = true
  within : g.pre.Within K

theorem names_eq (hab : List.Forall₂ (Action.AlikeWithin K) as bs) : as.map Action.name = bs.map Action.name := by
  induction hab with
  | nil => rfl
  | cons hab _ ih => rw [List.map_cons, List.map_cons, hab.name, ih]

/-! ## Carrying out -/

/-- Actions that are alike can be carried out from states that agree, and lead to states that agree. -/
theorem simulate_rel (hst : Set.EqOn s.get? t.get? K) (hab : List.Forall₂ (Action.AlikeWithin K) as bs) :
    Option.Rel (fun u v : Facts => Set.EqOn u.get? v.get? K) (simulate s as) (simulate t bs) := by
  induction hab generalizing s t with
  | nil => exact .some hst
  | @cons a b as bs hab _ ih =>
    have hav : a.available s = b.available t := Facts.meets_congr hst hab.pre hab.pre_within
    rw [simulate, simulate, hav]
    split
    · exact ih (Facts.eqOn_merge hst hab.eff)
    · exact .none

theorem achieves_congr (hst : Set.EqOn s.get? t.get? K) (hgh : g.AlikeWithin K h)
    (hab : List.Forall₂ (Action.AlikeWithin K) as bs) : achieves s as g = achieves t bs h := by
  have hsim := simulate_rel hst hab
  unfold achieves
  generalize simulate s as = x at hsim
  generalize simulate t bs = y at hsim
  cases hsim with
  | none => rfl
  | some huv => exact Facts.meets_congr huv hgh.pre hgh.within

/-! ## Trimming -/

namespace Sweep

/-- What the backward sweep has come to on two sequences: the actions kept are alike, and so is what is still needed. -/
structure Kept (K : Set Name) (x y : List (Action κ) × Facts) : Prop where
  actions : List.Forall₂ (Action.AlikeWithin K) x.1 y.1
  targets : x.2.alike y.2 = true

theorem kept_keepIfNeeded {a b : Action κ} (hab : a.AlikeWithin K b) {x y : List (Action κ) × Facts}
    (hxy : Kept K x y) : Kept K (keepIfNeeded a x) (keepIfNeeded b y) := by
  obtain ⟨kept, targets⟩ := x
  obtain ⟨kept', targets'⟩ := y
  have htargets := Table.alike_iff.1 hxy.targets
  have hperm : (a.eff.entries.filter fun e => targets.get? e.1 == some e.2).Perm
      (b.eff.entries.filter fun e => targets'.get? e.1 == some e.2) := by
    simp only at htargets
    simp only [htargets]
    exact (Table.entries_perm (Table.alike_iff.1 hab.eff)).filter _
  unfold keepIfNeeded
  simp only [hperm.isEmpty_eq]
  split
  · exact hxy
  · refine ⟨.cons hab hxy.actions, Table.alike_iff.2 fun n => ?_⟩
    rw [Table.get?_merge, Table.get?_merge, Table.get?_foldl_erase, Table.get?_foldl_erase,
      Table.alike_iff.1 hab.pre, htargets, if_congr (hperm.map Prod.fst).mem_iff rfl rfl]

theorem forall₂_dropIdle (hgh : g.AlikeWithin K h) (hab : List.Forall₂ (Action.AlikeWithin K) as bs) :
    List.Forall₂ (Action.AlikeWithin K) (dropIdle g as) (dropIdle h bs) := by
  have hkept : Kept K (as.foldr keepIfNeeded ([], g.pre)) (bs.foldr keepIfNeeded ([], h.pre)) :=
    List.rel_foldr (R := Action.AlikeWithin K) (P := Kept K) (fun _ _ hab _ _ hxy => kept_keepIfNeeded hab hxy)
      ⟨.nil, hgh.pre⟩ hab
  exact hkept.actions

/-- Actions that are alike make progress together. -/
theorem progresses_congr (hst : Set.EqOn s.get? t.get? K) (hgh : g.AlikeWithin K h) {a b : Action κ}
    (hab : a.AlikeWithin K b) : progresses g s a = progresses h t b := by
  have hidle : (a.apply s).alike s = (b.apply t).alike t := Facts.alike_merge_congr hst hab.eff hab.eff_within
  rw [progresses, progresses, hidle,
    ← (Table.entries_perm (Table.alike_iff.1 hab.eff)).any_eq]
  congr 1
  rw [Bool.eq_iff_iff, List.any_eq_true, List.any_eq_true]
  refine exists_congr fun e => and_congr_right fun he => ?_
  rw [Table.alike_iff.1 hgh.pre, hst (hab.eff_within.mem_of_entry he)]

theorem forall₂_keepProgress (hst : Set.EqOn s.get? t.get? K) (hgh : g.AlikeWithin K h)
    (hab : List.Forall₂ (Action.AlikeWithin K) as bs) :
    List.Forall₂ (Action.AlikeWithin K) (keepProgress g s as) (keepProgress h t bs) := by
  induction hab generalizing s t with
  | nil => exact .nil
  | @cons a b as bs hab _ ih =>
    have hav : a.available s = b.available t := Facts.meets_congr hst hab.pre hab.pre_within
    rw [keepProgress, keepProgress, hav, progresses_congr hst hgh hab]
    split
    · exact .cons hab (ih (Facts.eqOn_merge hst hab.eff))
    · exact ih hst

/-- A sweep over sequences that are alike leaves sequences that are alike. -/
theorem forall₂_apply (hst : Set.EqOn s.get? t.get? K) (hgh : g.AlikeWithin K h)
    (hab : List.Forall₂ (Action.AlikeWithin K) as bs) (w : Sweep) :
    List.Forall₂ (Action.AlikeWithin K) (w.apply s g as) (w.apply t h bs) := by
  cases w with
  | backward => exact forall₂_dropIdle hgh hab
  | forward => exact forall₂_keepProgress hst hgh hab

theorem adopt?_rel (hst : Set.EqOn s.get? t.get? K) (hgh : g.AlikeWithin K h)
    (hab : List.Forall₂ (Action.AlikeWithin K) as bs) (w : Sweep) :
    Option.Rel (List.Forall₂ (Action.AlikeWithin K)) (w.adopt? s g as) (w.adopt? t h bs) := by
  have hkept := forall₂_apply hst hgh hab w
  simp only [adopt?, hkept.length_eq, hab.length_eq, achieves_congr hst hgh hkept]
  split
  · exact .some hkept
  · exact .none

end Sweep

/-- Trimming sequences that are alike leaves sequences that are alike. -/
theorem forall₂_trimBy (hst : Set.EqOn s.get? t.get? K) (hgh : g.AlikeWithin K h)
    (hab : List.Forall₂ (Action.AlikeWithin K) as bs) (ws : List Sweep) :
    List.Forall₂ (Action.AlikeWithin K) (trimBy s g ws as).1 (trimBy t h ws bs).1 := by
  induction ws generalizing as bs with
  | nil => exact hab
  | cons w ws ih =>
    have hw := Sweep.adopt?_rel hst hgh hab w
    rw [trimBy, trimBy]
    generalize w.adopt? s g as = x at hw
    generalize w.adopt? t h bs = y at hw
    cases hw with
    | none => exact ih hab
    | some hkept => exact ih hkept

/-! ## Searching -/

/-- Snapshots that agree on the conditions in a set; what they say of the others is what two states say of them. -/
structure Snapshot.Views (K : Set Name) (s t : Facts) (m n : Snapshot) : Prop where
  agree : Set.EqOn m.get? n.get? K
  left : Set.EqOn m.get? s.get? Kᶜ
  right : Set.EqOn n.get? t.get? Kᶜ

/-- A snapshot is told by what it says of the conditions in the set, so the other one tells it. -/
theorem Snapshot.biUnique_views (K : Set Name) (s t : Facts) : Relator.BiUnique (Views K s t) := by
  constructor
  · intro m n m' h h'
    refine ext_get? fun c => ?_
    by_cases hc : c ∈ K
    · rw [h.agree hc, h'.agree hc]
    · rw [h.left hc, h'.left hc]
  · intro m n n' h h'
    refine ext_get? fun c => ?_
    by_cases hc : c ∈ K
    · rw [← h.agree hc, ← h'.agree hc]
    · rw [h.right hc, h'.right hc]

theorem Action.next?_rel {a b : Action κ} (hab : a.AlikeWithin K b) {m n : Snapshot}
    (hmn : Snapshot.Views K s t m n) : Option.Rel (Snapshot.Views K s t) (a.next? m) (b.next? n) := by
  rw [Action.next?, Action.next?, Snapshot.meets_congr hmn.agree hab.pre hab.pre_within]
  split
  · refine .some ⟨Snapshot.eqOn_merge hmn.agree hab.eff, ?_, ?_⟩
    · exact (m.eqOn_compl_merge hab.eff_within).trans hmn.left
    · refine (n.eqOn_compl_merge fun c hc => hab.eff_within c ?_).trans hmn.right
      rw [Table.mem_keys_iff, Table.alike_iff.1 hab.eff, ← Table.mem_keys_iff]
      exact hc
  · exact .none

/-- The search problems of states that agree mirror each other. -/
theorem Goal.problem_mirrors (hst : Set.EqOn s.get? t.get? K) (hgh : g.AlikeWithin K h)
    (hab : List.Forall₂ (Action.AlikeWithin K) (Action.byName as) (Action.byName bs)) :
    (g.problem (.ofFacts s) as).Mirrors (Snapshot.Views K s t) (Action.AlikeWithin K) (h.problem (.ofFacts t) bs) where
  start := by
    refine ⟨fun c hc => ?_, fun c _ => Snapshot.get?_ofFacts s c, fun c _ => Snapshot.get?_ofFacts t c⟩
    show (Snapshot.ofFacts s).get? c = (Snapshot.ofFacts t).get? c
    rw [Snapshot.get?_ofFacts, Snapshot.get?_ofFacts, hst hc]
  actions := hab
  next hab hmn := Action.next?_rel hab hmn
  cost hab := hab.cost
  label hab := hab.name
  estimate hmn := congrArg Cost.count (Goal.unmet_congr hmn.agree hgh.pre hgh.within)
  done hmn := Snapshot.meets_congr hmn.agree hgh.pre hgh.within

variable {o : Options}

theorem find_mirrors (o : Options) (hst : Set.EqOn s.get? t.get? K) (hgh : g.AlikeWithin K h)
    (hab : List.Forall₂ (Action.AlikeWithin K) (Action.byName as) (Action.byName bs)) :
    (find o s as g).search.Mirrors (Snapshot.Views K s t) (Action.AlikeWithin K) (find o t bs h).search := by
  rw [search_find, search_find]
  exact Search.mirrors_run (Snapshot.biUnique_views K s t) (Goal.problem_mirrors hst hgh hab) o.limit

/-- The plans found from states that agree have one shape. -/
theorem map_shape_eq (o : Options) (hst : Set.EqOn s.get? t.get? K) (hgh : g.AlikeWithin K h)
    (hab : List.Forall₂ (Action.AlikeWithin K) (Action.byName as) (Action.byName bs)) :
    (plan? o s as g).map Plan.shape = (plan? o t bs h).map Plan.shape := by
  have hway := (find_mirrors o hst hgh hab).way?
  rw [plan?_eq, plan?_eq]
  generalize (find o s as g).search.way? = x at hway
  generalize (find o t bs h).search.way? = y at hway
  cases hway with
  | none => rfl
  | some hab => exact congrArg some (names_eq (forall₂_trimBy hst hgh hab _))

/-- A finding is noted as cut short exactly if it is, with the goal, the steps made and the entries left waiting. -/
theorem cutShort_mem_notes_iff {name : String} {steps waiting : Nat} :
    .cutShort name steps waiting ∈ (find o s as g).notes ↔
      (find o s as g).search.cut o.limit = true ∧ name = g.name ∧ steps = (find o s as g).search.steps ∧
        waiting = (find o s as g).search.queue.size := by
  rw [search_find]
  unfold find
  dsimp only
  split <;> split <;> simp_all

/-- Searches from states that agree are cut short together, after as many steps and with as many entries left. -/
theorem cutShort_iff (o : Options) (hst : Set.EqOn s.get? t.get? K) (hgh : g.AlikeWithin K h)
    (hab : List.Forall₂ (Action.AlikeWithin K) (Action.byName as) (Action.byName bs)) (steps waiting : Nat) :
    .cutShort g.name steps waiting ∈ (find o s as g).notes ↔
      .cutShort h.name steps waiting ∈ (find o t bs h).notes := by
  have hm := find_mirrors o hst hgh hab
  rw [cutShort_mem_notes_iff, cutShort_mem_notes_iff, hm.cut, hm.steps, hm.queue.size]
  simp

/-! ## States that say the same -/

theorem Goal.alikeWithin_univ (g : Goal κ) : g.AlikeWithin Set.univ g :=
  ⟨Table.alike_iff.2 fun _ => rfl, fun _ _ => trivial⟩

theorem Action.alikeWithin_univ (as : List (Action κ)) : List.Forall₂ (Action.AlikeWithin Set.univ) as as :=
  List.forall₂_same.2 fun a _ => ⟨.refl a, fun _ _ => trivial, fun _ _ => trivial⟩

theorem achieves_of_get?_eq (hst : ∀ n, s.get? n = t.get? n) (as : List (Action κ)) (g : Goal κ) :
    achieves s as g = achieves t as g :=
  achieves_congr (fun n _ => hst n) g.alikeWithin_univ (Action.alikeWithin_univ as)

theorem cut_find_of_get?_eq (hst : ∀ n, s.get? n = t.get? n) (o : Options) (as : List (Action κ)) (g : Goal κ) :
    (find o s as g).cut = (find o t as g).cut := by
  have hm := find_mirrors o (fun n _ => hst n) g.alikeWithin_univ (Action.alikeWithin_univ (Action.byName as))
  rw [Bool.eq_iff_iff, cut_find_iff, cut_find_iff, Ne, Ne, ← List.length_eq_zero_iff, ← List.length_eq_zero_iff,
    ← Queue.size_eq_length, ← Queue.size_eq_length, hm.queue.size]

/-! ## The order of things listed -/

theorem sorted_mergeSort {α : Type} (name : α → String) (xs : List α) :
    (xs.mergeSort fun a b => !decide (name b < name a)).Pairwise fun a b => name a ≤ name b := by
  have hle : (xs.mergeSort fun a b => !decide (name b < name a)).Pairwise
      fun a b => (!decide (name b < name a)) = true := by
    refine List.pairwise_mergeSort (fun a b c hab hbc => ?_) (fun a b => ?_) xs
    · simp only [Bool.not_eq_true', decide_eq_false_iff_not, String.not_lt] at hab hbc ⊢
      exact String.le_trans hab hbc
    · simp only [Bool.or_eq_true, Bool.not_eq_true', decide_eq_false_iff_not, String.not_lt]
      exact String.le_total (name a) (name b)
  exact hle.imp fun h => by simpa only [Bool.not_eq_true', decide_eq_false_iff_not, String.not_lt] using h

/-- Things of distinct names come out in one order by name, whatever the order in which they are given. -/
theorem mergeSort_eq_of_perm {α : Type} (name : α → String) {xs ys : List α} (hd : (xs.map name).Nodup)
    (h : xs.Perm ys) : (xs.mergeSort fun a b => !decide (name b < name a)) =
      ys.mergeSort fun a b => !decide (name b < name a) := by
  have hperm := ((List.mergeSort_perm xs fun a b => !decide (name b < name a)).trans h).trans
    (List.mergeSort_perm ys fun a b => !decide (name b < name a)).symm
  refine hperm.eq_of_pairwise (fun a b ha hb hab hba => ?_) (sorted_mergeSort name xs) (sorted_mergeSort name ys)
  exact List.inj_on_of_nodup_map hd (List.mem_mergeSort.1 ha) (h.mem_iff.2 (List.mem_mergeSort.1 hb))
    (String.le_antisymm hab hba)

theorem Action.sorted_byName (as : List (Action κ)) : (byName as).Pairwise fun a b => a.name ≤ b.name :=
  sorted_mergeSort Action.name as

/-- Actions of distinct names that are alike in some order are alike by name. -/
theorem Action.forall₂_byName (hd : (as.map Action.name).Nodup) {cs : List (Action κ)} (hperm : as.Perm cs)
    (hlike : List.Forall₂ Action.Alike cs bs) : List.Forall₂ Action.Alike (byName as) (byName bs) := by
  have hsorted : (byName as).Perm as := List.mergeSort_perm as _
  obtain ⟨ds, hds, hdb⟩ := List.perm_comp_forall₂ (hsorted.trans hperm) hlike
  have hnames : (byName as).map Action.name = ds.map Action.name := by
    rw [← List.forall₂_eq_eq_eq, List.forall₂_map_left_iff, List.forall₂_map_right_iff]
    exact hds.imp fun _ _ hab => hab.name
  have hdistinct : (ds.map Action.name).Nodup := by
    rw [← hnames, (hsorted.map Action.name).nodup_iff]
    exact hd
  have hpairwise : ds.Pairwise fun a b => a.name ≤ b.name := by
    rw [← List.pairwise_map, ← hnames, List.pairwise_map]
    exact sorted_byName as
  -- sorted by distinct names, they are the others by name
  have hperm : ds.Perm (byName bs) := hdb.trans (List.mergeSort_perm bs _).symm
  have heq : ds = byName bs := by
    refine hperm.eq_of_pairwise (fun a b ha hb hab hba => ?_) hpairwise (sorted_byName bs)
    exact List.inj_on_of_nodup_map hdistinct ha (hperm.mem_iff.2 hb) (String.le_antisymm hab hba)
  rw [← heq]
  exact hds

/-- The order in which things are listed does not matter. Where actions of distinct names are given in another order,
and the conditions of the state, of the goal and of the actions in another order too, either both times there is no plan
or both plans have the same action names, and both searches are reported as cut short or neither is. -/
theorem find_reordered (o : Options) (hs : s.alike t = true) (hg : g.pre.alike h.pre = true)
    (hd : (as.map Action.name).Nodup) {cs : List (Action κ)} (hperm : as.Perm cs)
    (hlike : List.Forall₂ Action.Alike cs bs) :
    (plan? o s as g).map Plan.shape = (plan? o t bs h).map Plan.shape ∧
      ∀ steps waiting, .cutShort g.name steps waiting ∈ (find o s as g).notes ↔
        .cutShort h.name steps waiting ∈ (find o t bs h).notes := by
  have hst : Set.EqOn s.get? t.get? Set.univ := fun n _ => Table.alike_iff.1 hs n
  have hgh : g.AlikeWithin Set.univ h := ⟨hg, fun _ _ => trivial⟩
  have hab : List.Forall₂ (Action.AlikeWithin Set.univ) (Action.byName as) (Action.byName bs) :=
    (Action.forall₂_byName hd hperm hlike).imp fun _ _ hab => ⟨hab, fun _ _ => trivial, fun _ _ => trivial⟩
  exact ⟨map_shape_eq o hst hgh hab, cutShort_iff o hst hgh hab⟩

namespace Tower

/-- The state outside, the flag first. -/
def turned : Facts := Facts.uniform ["f", "t", "i"] .no

def raiseTurned : Action Rat := { raise with pre := .ofList [("t", .yes), ("i", .no)] }

def ascendTurned : Action Rat :=
  { ascend with pre := .ofList [("t", .no), ("i", .yes)], eff := .ofList [("t", .yes), ("i", .no)] }

def hoistedTurned : Goal Rat := { hoisted with pre := Facts.uniform ["f", "t"] .yes }

end Tower

open Tower in
/-- The flag is raised by the same actions if all is listed the other way round. -/
theorem find_reordered_tower :
    (plan? ⟨4, false⟩ turned [ascendTurned, raiseTurned, pull, enter, climb] hoistedTurned).map Plan.shape =
      some ["e", "a", "r"] := by
  have hlike : List.Forall₂ Action.Alike [ascend, raise, pull, enter, climb]
      [ascendTurned, raiseTurned, pull, enter, climb] :=
    .cons ⟨rfl, rfl, by decide, by decide⟩ (.cons ⟨rfl, rfl, by decide, by decide⟩
      (.cons (.refl pull) (.cons (.refl enter) (.cons (.refl climb) .nil))))
  have hs : outside.alike turned = true := by decide
  have hg : hoisted.pre.alike hoistedTurned.pre = true := by decide
  have hd : ([climb, enter, pull, raise, ascend].map Action.name).Nodup := by decide
  have hperm : [climb, enter, pull, raise, ascend].Perm [ascend, raise, pull, enter, climb] :=
    (List.reverse_perm [climb, enter, pull, raise, ascend]).symm
  have hsame := (find_reordered ⟨4, false⟩ hs hg hd hperm hlike).1
  rw [← hsame, plan?_four]
  rfl

/-! ## Conditions that nothing mentions -/

/-- A condition that neither the actions nor the goal mention does not matter. Whether it holds, does not hold, is not
known or is not spoken of at the start, there is no plan each time or the plan has the same action names, and the search
is cut short each time or never. So planning does not ask for it where it is the only condition that is not known. -/
theorem find_unmentioned (o : Options) (start : Facts) {k : Name} (hact : ∀ a ∈ as, k ∉ a.conditions)
    (hgoal : k ∉ g.pre.keys) :
    (∀ s ∈ [start.set k .yes, start.set k .no, start.set k .unknown, start.erase k],
      ∀ t ∈ [start.set k .yes, start.set k .no, start.set k .unknown, start.erase k],
        (plan? o s as g).map Plan.shape = (plan? o t as g).map Plan.shape ∧
        ∀ steps waiting, .cutShort g.name steps waiting ∈ (find o s as g).notes ↔
          .cutShort g.name steps waiting ∈ (find o t as g).notes) ∧
      ∀ (σ : Type) (r : Resolver σ) (w v : Session σ) (found : Facts), r.state.outcome w = (.ok found, v) →
        (∀ n, found.get? n = some .unknown ↔ n = k) → asked r o as g w = [] := by
  have hgh : g.AlikeWithin {n | n ≠ k} g := ⟨Table.alike_iff.2 fun _ => rfl, fun n hn hk => hgoal (hk ▸ hn)⟩
  have hab : List.Forall₂ (Action.AlikeWithin {n | n ≠ k}) (Action.byName as) (Action.byName as) := by
    refine List.forall₂_same.2 fun a ha => ?_
    have hk := hact a (Action.mem_byName.1 ha)
    rw [Action.conditions, List.mem_append, not_or] at hk
    exact ⟨.refl a, fun n hn hnk => hk.1 (hnk ▸ hn), fun n hn hnk => hk.2 (hnk ▸ hn)⟩
  constructor
  · intro s hs t ht
    have hoff : ∀ u ∈ [start.set k .yes, start.set k .no, start.set k .unknown, start.erase k],
        Set.EqOn u.get? start.get? {n | n ≠ k} := by
      simp only [List.forall_mem_cons, List.not_mem_nil, false_implies, implies_true, and_true]
      exact ⟨start.eqOn_set k _, start.eqOn_set k _, start.eqOn_set k _, start.eqOn_erase k⟩
    have hst := (hoff s hs).trans (hoff t ht).symm
    exact ⟨map_shape_eq o hst hgh hab, cutShort_iff o hst hgh hab⟩
  · intro σ r w v found hw hu
    have hagree : Agree o found k as g := by
      have hoff : ∀ u ∈ found :: found.variants k, Set.EqOn u.get? found.get? {n | n ≠ k} := by
        simp only [Facts.variants, List.forall_mem_cons, List.not_mem_nil, false_implies, implies_true, and_true]
        exact ⟨Set.eqOn_refl _ _, found.eqOn_set k _, found.eqOn_set k _⟩
      exact fun s hs t ht => map_shape_eq o ((hoff s hs).trans (hoff t ht).symm) hgh hab
    rw [asked_eq hw, verdict_of_agree (Facts.unknowns_eq_singleton hu) hagree]
    rfl

open Tower in
/-- The weather does not matter for raising the flag, and nobody asks what it is like. -/
theorem find_unmentioned_tower :
    (plan? ⟨4, false⟩ (outside.set "w" .unknown) [climb, enter, pull, raise, ascend] hoisted).map Plan.shape =
        some ["e", "a", "r"] ∧
      asked ⟨return outside.set "w" .unknown, fun _ => return .yes⟩ ⟨4, false⟩ [climb, enter, pull, raise, ascend]
        hoisted ⟨(), #[]⟩ = [] := by
  have hact : ∀ a ∈ [climb, enter, pull, raise, ascend], Name.text "w" ∉ a.conditions := by decide
  have hgoal : Name.text "w" ∉ hoisted.pre.keys := by decide
  have h := find_unmentioned ⟨4, false⟩ outside hact hgoal
  constructor
  · have herase : outside.erase "w" = outside := rfl
    rw [(h.1 _ (.tail _ (.tail _ (.head _))) _ (.tail _ (.tail _ (.tail _ (.head _))))).1, herase, plan?_four]
    rfl
  · refine h.2 Unit ⟨return outside.set "w" .unknown, fun _ => return .yes⟩ ⟨(), #[]⟩ ⟨(), #[]⟩
      (outside.set "w" .unknown) rfl fun n => ?_
    rw [Table.get?_set]
    by_cases hn : "w" = n
    · simp [hn]
    · rw [if_neg hn, iff_false_right (Ne.symm hn), Table.get?_eq_some_iff]
      simp [outside, Facts.uniform, Table.ofList, Table.setAll, Table.set, Table.put]

end GoalPlanner
