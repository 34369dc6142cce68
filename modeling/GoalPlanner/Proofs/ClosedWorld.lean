import GoalPlanner.Plan.ClosedWorld
import GoalPlanner.Proofs.Agreement
import GoalPlanner.Proofs.Deferral
import GoalPlanner.Proofs.Flags
import GoalPlanner.Proofs.Plan.Limit
import GoalPlanner.Proofs.Search.Generated
import Mathlib

/-!
# Planning in a closed world

A state supplied for a domain says of every condition of the domain whether it holds (`Resolver.Knows.mem_keys`), and
effects are about such conditions too. So actions change what is said of a condition, but not which ones something is
said of: the snapshots that a search comes across speak of just the conditions of its start (`Domain.confined_about`),
and so do the states in which actions are carried out (`keys_of_simulate`). Hence no requirement ever meets a condition
of which nothing is said, and there are not more snapshots than ways to choose a truth value for each condition
(`Snapshot.encard_about_le`).
-/

namespace GoalPlanner

/-! ## Snapshots about some conditions -/

theorem Truth.card_eq : Nat.card Truth = 3 := by
  have hall : (Set.univ : Set Truth) = (Truth.all.toFinset : Finset Truth) := by
    ext t
    simp [Truth.mem_all]
  rw [← Set.ncard_univ, hall, Set.ncard_coe_finset]
  rfl

namespace Snapshot

/-- The snapshots that speak of just the conditions in a list. -/
def about (ns : List Name) : Set Snapshot := {s | ∀ n, (s.get? n).isSome ↔ n ∈ ns}

/-- A snapshot speaks of all the conditions that are required. -/
def Answers (s : Snapshot) (required : Facts) : Prop := ∀ n ∈ required.keys, s.get? n ≠ none

variable {ns : List Name} {s : Snapshot}

theorem answers_of_mem_about (hs : s ∈ about ns) {required : Facts} (h : ∀ n ∈ required.keys, n ∈ ns) :
    s.Answers required := fun n hn => Option.isSome_iff_ne_none.1 ((hs n).2 (h n hn))

theorem merge_mem_about (hs : s ∈ about ns) {effects : Facts} (h : ∀ n ∈ effects.keys, n ∈ ns) :
    s.merge effects ∈ about ns := by
  intro n
  rw [get?_merge_eq_or, Option.isSome_or, Bool.or_eq_true, hs n, or_iff_right_of_imp]
  exact fun he => h n (Table.mem_keys_iff.2 he)

/-- A snapshot is known by what it says of the conditions that it is about. -/
theorem injOn_about (ns : List Name) : (about ns).InjOn fun s (i : Fin ns.length) => (s.get? ns[i]).getD .no := by
  intro s hs t ht hst
  refine ext_get? fun n => ?_
  by_cases hn : n ∈ ns
  · obtain ⟨i, hi, rfl⟩ := List.getElem_of_mem hn
    obtain ⟨v, hv⟩ := Option.isSome_iff_exists.1 ((hs _).2 hn)
    obtain ⟨w, hw⟩ := Option.isSome_iff_exists.1 ((ht _).2 hn)
    have hvw : v = w := by simpa [hv, hw] using congrFun hst ⟨i, hi⟩
    rw [hv, hw, hvw]
  · -- neither speaks of other conditions
    have out {u : Snapshot} (hu : u ∈ about ns) : u.get? n = none :=
      Option.not_isSome_iff_eq_none.1 fun h => hn ((hu n).1 h)
    rw [out hs, out ht]

/-- With three truth values there are at most so many snapshots about some conditions. -/
theorem encard_about_le (ns : List Name) : (about ns).encard ≤ (3 ^ ns.length : Nat) := by
  calc (about ns).encard ≤ (Set.univ : Set (Fin ns.length → Truth)).encard :=
        Set.encard_le_encard_of_injOn (Set.mapsTo_univ _ _) (injOn_about ns)
    _ = (3 ^ ns.length : Nat) := by
      rw [Set.encard_univ, ENat.card_eq_coe_natCard, Nat.card_fun, Truth.card_eq, Nat.card_fin]

end Snapshot

/-! ## Resolvers for a domain -/

section

variable {σ κ : Type} [Cost κ]

/-- Resolvers that know the conditions of a domain: those of a world that are made for the domain, and those over given
facts in which every condition of the domain has been set to some default unless the facts speak of it. -/
inductive Resolver.Knows (d : Domain κ) : {σ : Type} → Resolver σ → Prop
  | world (conditions : List (Condition κ)) (deferAbove : Option κ) (history : List String) :
      Knows d ((Resolution.ofDomain d conditions deferAbove).resolver history)
  | facts {σ : Type} {known : List Name} (hknown : known.Perm d.conditions) (default : Truth) (given : Facts) :
      Knows d (Resolver.ofFacts (σ := σ) (complete known default given))

variable {d : Domain κ} {r : Resolver σ} {s t : Session σ} {start x : Facts} {n : Name}

theorem mem_keys_complete {known : List Name} (default : Truth) (given : Facts) (hn : n ∈ known) :
    n ∈ (complete known default given).keys := by
  rw [Table.mem_keys_iff, get?_complete, Option.isSome_or, Facts.get?_uniform, if_pos hn, Option.isSome_some,
    Bool.or_true]

/-- The state that is supplied speaks of every condition of the domain. -/
theorem Resolver.Knows.mem_keys (hr : Knows d r) (hstart : r.state.outcome s = (.ok start, t))
    (hn : n ∈ d.conditions) : n ∈ start.keys := by
  cases hr with
  | world conditions deferAbove history =>
    obtain ⟨v, -, hv⟩ := Resolution.result_read_of_state (r := .ofDomain d conditions deferAbove)
      (Name.nodup_sort d.nodup_conditions) hstart (Name.mem_sort.2 hn)
    exact Table.mem_keys_iff.2 (by rw [hv]; rfl)
  | facts hknown default given =>
    cases hstart
    exact mem_keys_complete default given (hknown.mem_iff.2 hn)

/-! ## Searches -/

variable {g : Goal κ}

/-- From a state that speaks of all conditions of a domain, no action leads to a snapshot about other conditions. -/
theorem Domain.confined_about (h : ∀ n ∈ d.conditions, n ∈ start.keys) (hx : ∀ n, n ∈ x.keys ↔ n ∈ start.keys)
    (g : Goal κ) : (g.problem (.ofFacts x) d.actions).Confined (Snapshot.about start.keys) where
  start n := by
    show ((Snapshot.ofFacts x).get? n).isSome ↔ _
    rw [Snapshot.get?_ofFacts, ← Table.mem_keys_iff, hx]
  next a ha s hs m hm := by
    have ha : a ∈ d.actions := Action.mem_byName.1 ha
    obtain ⟨-, rfl⟩ : _ ∧ s.merge a.eff = m := by simpa [Goal.problem, Action.next?] using hm
    exact Snapshot.merge_mem_about hs fun n hn => h n (mem_conditions_of_eff ha hn)

/-- Carrying out actions of a domain leaves the conditions of such a state as they are. -/
theorem keys_of_simulate (h : ∀ n ∈ d.conditions, n ∈ start.keys) {as : List (Action κ)} (has : ∀ a ∈ as, a ∈ d.actions)
    {y : Facts} (hx : ∀ n, n ∈ x.keys ↔ n ∈ start.keys) (hy : simulate x as = some y) :
    ∀ n, n ∈ y.keys ↔ n ∈ start.keys := by
  induction as generalizing x with
  | nil =>
    cases hy
    exact hx
  | cons a as ih =>
    have ha : a ∈ d.actions := has a List.mem_cons_self
    rw [simulate] at hy
    split at hy
    · -- the effects of `a` are about conditions that are spoken of already
      refine ih (fun b hb => has b (List.mem_cons_of_mem _ hb)) (fun n => ?_) hy
      rw [Table.mem_keys_iff, Action.apply, Table.get?_merge, Option.isSome_or, Bool.or_eq_true, ← Table.mem_keys_iff,
        ← Table.mem_keys_iff, hx, or_iff_right_of_imp]
      exact fun hn => h n (Domain.mem_conditions_of_eff ha hn)
    · cases hy

/-- The conditions of a state in which one of them has been decided. -/
theorem mem_keys_decided (hx : x = start ∨ ∃ c v, start.get? c = some .unknown ∧ x = start.set c v) :
    n ∈ x.keys ↔ n ∈ start.keys := by
  rcases hx with rfl | ⟨c, v, hc, rfl⟩
  · rfl
  · rw [Table.keys_set, if_pos (Table.mem_keys_iff.2 (by rw [hc]; rfl))]

/-- Planning in a closed world. The state supplied for a domain speaks of every condition that an action or a goal of
it requires. From this state, or from one in which a condition that it left open has been decided, a search for any goal
of the domain comes across snapshots about just its conditions only, so that they answer every requirement, and records
nothing of others. With `n` conditions these are at most `3 ^ n` ones, and carrying out actions of the domain does not
change which conditions are spoken of. -/
theorem closed_world (hr : Resolver.Knows d r) (hstart : r.state.outcome s = (.ok start, t))
    (hx : x = start ∨ ∃ c v, start.get? c = some .unknown ∧ x = start.set c v) (o : Options) (hg : g ∈ d.goals) :
    (∀ a ∈ d.actions, ∀ n ∈ a.pre.keys, n ∈ start.keys) ∧ (∀ n ∈ g.pre.keys, n ∈ start.keys) ∧
    (∀ m, Search.Generated (g.problem (.ofFacts x) d.actions) o.limit m →
      m ∈ Snapshot.about start.keys ∧ (∀ a ∈ d.actions, m.Answers a.pre) ∧ m.Answers g.pre) ∧
    (find o x d.actions g).search.Within {m | Search.Generated (g.problem (.ofFacts x) d.actions) o.limit m} ∧
    {m | Search.Generated (g.problem (.ofFacts x) d.actions) o.limit m}.encard ≤ (3 ^ start.size : Nat) ∧
    ∀ as y, (∀ a ∈ as, a ∈ d.actions) → simulate x as = some y → ∀ n, n ∈ y.keys ↔ n ∈ start.keys := by
  have hall : ∀ n ∈ d.conditions, n ∈ start.keys := fun n => hr.mem_keys hstart
  have hactions : ∀ a ∈ d.actions, ∀ n ∈ a.pre.keys, n ∈ start.keys := fun a ha n hn =>
    hall n (Domain.mem_conditions.2 (.inl ⟨a, ha, hn⟩))
  have hgoal : ∀ n ∈ g.pre.keys, n ∈ start.keys := fun n hn =>
    hall n (Domain.mem_conditions.2 (.inr (.inr ⟨g, hg, hn⟩)))
  have hkeys : ∀ n, n ∈ x.keys ↔ n ∈ start.keys := fun n => mem_keys_decided hx
  have habout : ∀ m, Search.Generated (g.problem (.ofFacts x) d.actions) o.limit m → m ∈ Snapshot.about start.keys :=
    fun m hm => (d.confined_about hall hkeys g).mem_of_generated hm
  refine ⟨hactions, hgoal, fun m hm => ⟨habout m hm, fun a ha => ?_, ?_⟩, ?_, ?_, fun as y has hy => ?_⟩
  · exact Snapshot.answers_of_mem_about (habout m hm) (hactions a ha)
  · exact Snapshot.answers_of_mem_about (habout m hm) hgoal
  · rw [search_find]
    exact Search.within_generated _ _
  · refine (Set.encard_le_encard habout).trans ?_
    have hle := Snapshot.encard_about_le start.keys
    rwa [Table.keys, List.length_map] at hle
  · exact keys_of_simulate hall has hkeys hy

open Door in
/-- Where looking for the key waits, a search for a way through the door from a state with the key comes across at most
nine snapshots. -/
theorem closed_world_door : ∃ start t,
    ((Resolution.ofDomain domain [look] (some 0)).resolver []).state.outcome ⟨.empty, #[]⟩ = (.ok start, t) ∧
      start.get? "k" = some .unknown ∧
      {m | Search.Generated (opened.problem (.ofFacts (start.set "k" .yes)) [unlock]) 10 m}.encard ≤ 9 := by
  obtain ⟨t, ht⟩ := outcome_state (some 0) .unknown (by decide)
  have hkey : (shut .unknown).get? "k" = some .unknown := get?_shut.2 ⟨.inl rfl, rfl⟩
  refine ⟨shut .unknown, t, ht, hkey, ?_⟩
  obtain ⟨-, -, -, -, hle, -⟩ := closed_world (.world [look] (some 0) []) ht (.inr ⟨"k", .yes, hkey, rfl⟩) ⟨10, true⟩
    (g := opened) List.mem_cons_self
  have hd : (Name.sort domain.conditions).Nodup := Name.nodup_sort domain.nodup_conditions
  have hsize : (shut .unknown).size ≤ 2 := by
    rw [shut, Table.size, Facts.entries_ofNames hd, List.length_map]
    show _ ≤ [("k" : Name), "d"].length
    exact hd.length_le_of_subset fun n hn => by simpa using Door.mem_conditions.1 hn
  exact hle.trans (Nat.cast_le.2 (Nat.pow_le_pow_right (n := 3) (by decide) hsize))

end

end GoalPlanner
