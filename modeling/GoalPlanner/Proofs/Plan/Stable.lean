import GoalPlanner.Proofs.Plan.Idle
import Mathlib

/-!
# What trimming leaves alone

Each sweep keeps what it has kept (`Sweep.foldr_dropIdle`, `Sweep.keepProgress_keepProgress`), but the two together do
not: the forward sweep can drop an action that was the only reason to keep an earlier one (`trim_drops_again`). What has
been trimmed is left alone exactly if the backward sweep drops nothing of it, as when each requirement of the goal is
established by one of its actions only; and trimming again and again comes to an end (`trim_again`).

A cheapest sequence of actions that all cost something is left alone at once, since any action dropped would make it
cheaper (`Cheapest.trimBy_eq`). So whether ways found are trimmed makes no difference to a search that is not cut short
(`plan?_eq_untrimmed`).
-/

namespace GoalPlanner

section

variable {κ : Type} [Cost κ] {s : Facts} {g : Goal κ} {a : Action κ} {as : List (Action κ)} {n : Name} {v : Truth}

/-! ## One sweep -/

namespace Sweep

/-- What the forward sweep has kept, it keeps. -/
theorem keepProgress_keepProgress (g : Goal κ) (s : Facts) (as : List (Action κ)) :
    keepProgress g s (keepProgress g s as) = keepProgress g s as := by
  induction as generalizing s with
  | nil => rfl
  | cons a as ih =>
    rw [keepProgress]
    split
    · rename_i hkeep
      rw [keepProgress, if_pos hkeep, ih]
    · exact ih s

theorem serves_of_mem_keepProgress (h : a ∈ keepProgress g s as) : a.Serves g.pre := by
  induction as generalizing s with
  | nil => cases h
  | cons b as ih =>
    rw [keepProgress] at h
    split at h
    · rename_i hkeep
      rcases List.mem_cons.1 h with rfl | h
      · simp only [progresses, Bool.and_eq_true, List.any_eq_true, beq_iff_eq] at hkeep
        obtain ⟨-, -, e, he, hgoal, -⟩ := hkeep
        exact ⟨e.1, e.2, Table.get?_eq_some_iff.2 he, hgoal⟩
      · exact ih h
    · exact ih h

/-- A sweep that keeps a sequence as it is leaves nothing to adopt. -/
theorem adopt?_of_apply_eq_self {w : Sweep} (h : w.apply s g as = as) : w.adopt? s g as = none := by
  rw [adopt?, h]
  simp

/-- What a sweep leaves behind, adopted or not, it sweeps in vain. -/
theorem adopt?_getD {w : Sweep} (h : w.apply s g (w.apply s g as) = w.apply s g as) :
    w.adopt? s g ((w.adopt? s g as).getD as) = none := by
  cases hw : w.adopt? s g as with
  | none => exact hw
  | some kept =>
    obtain ⟨rfl, -, -⟩ := adopt?_eq_some_iff.1 hw
    exact adopt?_of_apply_eq_self h

/-- A requirement of the goal that no action of a sequence establishes is needed before the sequence, if the sequence
achieves the goal. -/
theorem needed_of_not_established (h : achieves s as g = true) (hg : g.pre.get? n = some v)
    (hno : ∀ b ∈ as, b.eff.get? n ≠ some v) : (needed g as).get? n = some v := by
  induction as generalizing s with
  | nil => exact hg
  | cons a as ih =>
    obtain ⟨hav, hach⟩ := achieves_cons.1 h
    have hn : (needed g as).get? n = some v := ih hach fun b hb => hno b (List.mem_cons_of_mem a hb)
    have ha : a.eff.get? n ≠ some v := hno a List.mem_cons_self
    by_cases hserves : a.Serves (needed g as)
    · rw [(dropIdle_of_serves hserves).2, hn, if_neg ha]
      cases hp : a.pre.get? n with
      | none => rfl
      | some u =>
        -- the action leaves the condition alone, so it requires what the goal does
        have hu := Facts.meets_iff.1 hav n u hp
        have hv := Facts.meets_iff.1 (meets_needed hach) n v hn
        cases he : a.eff.get? n with
        | none =>
          rw [a.get?_apply, he, Option.none_or, hu] at hv
          exact hv
        | some w => exact absurd (Action.eff_eq_of_meets (meets_needed hach) hn he ▸ he) ha
    · rw [(dropIdle_of_not_serves hserves).2]
      exact hn

/-- No two actions of a sequence establish the same requirement of the goal. -/
def EachOnce (g : Goal κ) (as : List (Action κ)) : Prop :=
  as.Pairwise fun a b => ∀ n v, g.pre.get? n = some v → a.eff.get? n = some v → b.eff.get? n ≠ some v

/-- The backward sweep drops nothing of a sequence in which every action establishes a requirement of the goal that no
other one does. -/
theorem dropIdle_eq_self (h : achieves s as g = true) (hserves : ∀ a ∈ as, a.Serves g.pre) (honce : EachOnce g as) :
    dropIdle g as = as := by
  induction as generalizing s with
  | nil => rfl
  | cons a as ih =>
    obtain ⟨-, hach⟩ := achieves_cons.1 h
    obtain ⟨hfirst, hrest⟩ := List.pairwise_cons.1 honce
    obtain ⟨n, v, he, hg⟩ := hserves a List.mem_cons_self
    have ha : a.Serves (needed g as) :=
      ⟨n, v, he, needed_of_not_established hach hg fun b hb => hfirst b hb n v hg he⟩
    rw [(dropIdle_of_serves ha).1, ih hach (fun b hb => hserves b (List.mem_cons_of_mem a hb)) hrest]

end Sweep

/-! ## Both sweeps -/

theorem trimBy_singleton (s : Facts) (g : Goal κ) (w : Sweep) (as : List (Action κ)) :
    (trimBy s g [w] as).1 = (w.adopt? s g as).getD as := by
  rw [trimBy]
  cases w.adopt? s g as <;> rfl

/-- Trimming a sequence that achieves the goal is a forward sweep over what the backward sweep keeps. -/
theorem trim_eq (h : achieves s as g = true) :
    trim s g as = (Sweep.forward.adopt? s g (Sweep.dropIdle g as)).getD (Sweep.dropIdle g as) :=
  (trimBy_backward h _).trans (trimBy_singleton s g .forward _)

/-- The forward sweep drops nothing of what has been trimmed. -/
theorem adopt?_forward_trim (h : achieves s as g = true) : Sweep.forward.adopt? s g (trim s g as) = none := by
  rw [trim_eq h]
  exact Sweep.adopt?_getD (Sweep.keepProgress_keepProgress g s _)

/-- What has been trimmed is left alone exactly if the backward sweep drops nothing of it. -/
theorem trim_trim_eq_iff (h : achieves s as g = true) :
    trim s g (trim s g as) = trim s g as ↔ Sweep.dropIdle g (trim s g as) = trim s g as := by
  have hach : achieves s (trim s g as) g = true := achieves_trimBy _ h
  constructor
  · intro heq
    refine (Sweep.sublist_dropIdle g _).antisymm ?_
    have hsub : (trim s g (trim s g as)).Sublist (Sweep.dropIdle g (trim s g as)) := by
      rw [trim, trimBy_backward hach]
      exact sublist_trimBy ..
    rwa [heq] at hsub
  · intro heq
    rw [trim_eq hach, heq, adopt?_forward_trim h]
    rfl

/-- What has been trimmed is what the backward sweep kept, or every action of it establishes a requirement of the
goal. -/
theorem trim_cases (h : achieves s as g = true) :
    trim s g as = Sweep.dropIdle g as ∨ ∀ a ∈ trim s g as, a.Serves g.pre := by
  rw [trim_eq h]
  cases hw : Sweep.forward.adopt? s g (Sweep.dropIdle g as) with
  | none => exact .inl rfl
  | some kept =>
    obtain ⟨rfl, -, -⟩ := Sweep.adopt?_eq_some_iff.1 hw
    exact .inr fun a ha => Sweep.serves_of_mem_keepProgress ha

/-- A function that only leaves members out of a list leaves it alone after as many rounds as it has members. -/
theorem iterate_sublist_fixed {α : Type} {f : List α → List α} (hf : ∀ xs, (f xs).Sublist xs) {rounds : Nat}
    {xs : List α} (h : xs.length ≤ rounds) : f (f^[rounds] xs) = f^[rounds] xs := by
  induction rounds generalizing xs with
  | zero =>
    obtain rfl := List.length_eq_zero_iff.1 (Nat.le_zero.1 h)
    exact List.sublist_nil.1 (hf [])
  | succ rounds ih =>
    by_cases hx : (f xs).length < xs.length
    · rw [Function.iterate_succ_apply]
      exact ih (by omega)
    · have hfixed : f xs = xs := (hf xs).eq_of_length_le (Nat.le_of_not_lt hx)
      rw [Function.iterate_fixed hfixed, hfixed]

/-- Trimming once more. Where a sequence achieves the goal, what has been trimmed of it is left alone exactly if the
backward sweep drops nothing of it: so if the forward sweep dropped nothing, and also if no two of the actions left
establish the same requirement of the goal. However that may be, after as many rounds as the sequence has actions
trimming leaves it alone. -/
theorem trim_again (h : achieves s as g = true) :
    (trim s g (trim s g as) = trim s g as ↔ Sweep.dropIdle g (trim s g as) = trim s g as) ∧
    (trim s g as = Sweep.dropIdle g as → trim s g (trim s g as) = trim s g as) ∧
    (Sweep.EachOnce g (trim s g as) → trim s g (trim s g as) = trim s g as) ∧
    ∀ rounds, as.length ≤ rounds → trim s g ((trim s g)^[rounds] as) = (trim s g)^[rounds] as := by
  have hiff := trim_trim_eq_iff h
  have hbackward : trim s g as = Sweep.dropIdle g as → trim s g (trim s g as) = trim s g as := fun heq => by
    rw [hiff, heq]
    exact congrArg Prod.fst (Sweep.foldr_dropIdle g as)
  refine ⟨hiff, hbackward, fun honce => ?_, fun rounds hrounds => ?_⟩
  · rcases trim_cases h with heq | hserves
    · exact hbackward heq
    · exact hiff.2 (Sweep.dropIdle_eq_self (achieves_trimBy _ h) hserves honce)
  · exact iterate_sublist_fixed (fun bs => sublist_trimBy s g _ bs) hrounds

end

namespace Room

/-! A room is to be lit (`l`) and warm (`w`). By the light of a candle one can put the fuse in, and with power (`p`) the
mains will light the room and warm it. But there is power all along. -/

def dark : Facts := .ofList [("p", .yes), ("l", .no), ("w", .no)]

def candle : Action Rat := ⟨"candle", ∅, Facts.uniform ["l"] .yes, 1, 0, by decide, not_lt.2 zero_le_one⟩

def fuse : Action Rat :=
  ⟨"fuse", Facts.uniform ["l"] .yes, Facts.uniform ["p"] .yes, 1, 0, by decide, not_lt.2 zero_le_one⟩

def mains : Action Rat :=
  ⟨"mains", Facts.uniform ["p"] .yes, Facts.uniform ["l", "w"] .yes, 1, 0, by decide, not_lt.2 zero_le_one⟩

def cosy : Goal Rat := ⟨"cosy", Facts.uniform ["l", "w"] .yes, 0, "", by decide⟩

theorem achieves_cosy : achieves dark [candle, fuse, mains] cosy = true := by
  rfl

/-- The fuse is dropped, since there is power. -/
theorem trim_fuse : trim dark cosy [candle, fuse, mains] = [candle, mains] := by
  rfl

/-- Without the fuse, nothing needs the candle. -/
theorem trim_candle : trim dark cosy [candle, mains] = [mains] := by
  rfl

end Room

open Room in
/-- Trimming again leaves the mains alone, since no other action that is left lights the room. -/
theorem trim_again_room :
    achieves dark [candle, mains] cosy = true ∧ Sweep.EachOnce cosy (trim dark cosy [candle, mains]) ∧
      trim dark cosy (trim dark cosy [candle, mains]) = trim dark cosy [candle, mains] := by
  have hach : achieves dark [candle, mains] cosy = true := by
    rw [← trim_fuse]
    exact achieves_trimBy _ achieves_cosy
  have honce : Sweep.EachOnce cosy (trim dark cosy [candle, mains]) := by
    rw [trim_candle]
    exact List.pairwise_singleton ..
  exact ⟨hach, honce, (trim_again hach).2.2.1 honce⟩

open Room in
/-- The candle had been kept for the fuse, so it is only dropped when what has been trimmed is trimmed again. -/
theorem trim_drops_again :
    achieves dark [candle, fuse, mains] cosy = true ∧
      trim dark cosy (trim dark cosy [candle, fuse, mains]) ≠ trim dark cosy [candle, fuse, mains] := by
  refine ⟨achieves_cosy, ?_⟩
  rw [trim_fuse, trim_candle]
  exact fun h => absurd (congrArg List.length h) (by decide)

/-! ## Cheapest sequences -/

/-- Of actions that all cost something, some cost as much as all only if they are all. -/
theorem eq_of_sublist_of_cost_le {as bs : List (Action Rat)} (hsub : as.Sublist bs) (hpos : ∀ b ∈ bs, 0 < b.cost)
    (hle : Cost.sum (bs.map Action.cost) ≤ Cost.sum (as.map Action.cost)) : as = bs := by
  induction hsub with
  | slnil => rfl
  | @cons as bs b hsub ih =>
    have hb : 0 < b.cost := hpos b List.mem_cons_self
    have hbs : Cost.sum (as.map Action.cost) ≤ Cost.sum (bs.map Action.cost) := by
      refine Cost.sum_le_of_sublist (hsub.map _) fun c hc => ?_
      obtain ⟨d, -, rfl⟩ := List.mem_map.1 hc
      exact not_lt.1 d.nonneg
    rw [List.map_cons, Cost.sum_cons] at hle
    linarith
  | @cons_cons as bs b _ ih =>
    rw [List.map_cons, List.map_cons, Cost.sum_cons, Cost.sum_cons, add_le_add_iff_left] at hle
    rw [ih (fun c hc => hpos c (List.mem_cons_of_mem b hc)) hle]

section

variable {start : Facts} {actions : List (Action Rat)} {g : Goal Rat}

/-- Trimming leaves a cheapest sequence alone if every action costs something. -/
theorem Cheapest.trimBy_eq {as : List (Action Rat)} (h : Cheapest start actions g as)
    (hpos : ∀ a ∈ actions, 0 < a.cost) (ws : List Sweep) : (trimBy start g ws as).1 = as := by
  have hsub := sublist_trimBy start g ws as
  refine eq_of_sublist_of_cost_le hsub (fun a ha => hpos a (h.mem a ha)) ?_
  exact h.le _ (fun a ha => h.mem a (hsub.subset ha)) (achieves_trimBy ws h.achieves)

/-- The way found by a search that is not cut short is cheapest. -/
theorem cheapest_of_way? {o : Options} (hcut : (find o start actions g).cut = false) {way : List (Action Rat)}
    (hway : (find o start actions g).search.way? = some way) : Cheapest start actions g way := by
  -- without trimming, the way is the plan
  have hsearch : (find ⟨o.limit, false⟩ start actions g).search = (find o start actions g).search := by
    rw [search_find, search_find]
  have hcut' : (find ⟨o.limit, false⟩ start actions g).cut = false := by
    rwa [← Bool.not_eq_true, cut_find_iff, hsearch, ← cut_find_iff, Bool.not_eq_true]
  have hplan : plan? ⟨o.limit, false⟩ start actions g = some ⟨way, g, start⟩ := by
    rw [plan?_eq, hsearch, hway]
    rfl
  exact cheapest_of_plan? hcut' hplan

/-- Trimming is idle on cheapest plans. Where every action costs something, a search that is not cut short comes to the
same plan, or to none, whether the way found is trimmed or not. -/
theorem plan?_eq_untrimmed {limit : Nat} (hpos : ∀ a ∈ actions, 0 < a.cost)
    (hcut : (find ⟨limit, true⟩ start actions g).cut = false) :
    plan? ⟨limit, true⟩ start actions g = plan? ⟨limit, false⟩ start actions g := by
  have hsearch : (find ⟨limit, false⟩ start actions g).search = (find ⟨limit, true⟩ start actions g).search := by
    rw [search_find, search_find]
  rw [plan?_eq, plan?_eq, hsearch]
  refine Option.map_congr fun way hway => ?_
  rw [(cheapest_of_way? hcut hway).trimBy_eq hpos, (cheapest_of_way? hcut hway).trimBy_eq hpos]

end

open Door in
set_option maxRecDepth 100000 in
/-- The search for a way through the door ends with nothing waiting, and has found the key. -/
theorem Door.search_opened : (find ⟨10, true⟩ ∅ [unlock, force, fetch] opened).search.readOff 3 =
    (some (.ofFacts (Facts.uniform ["d", "k"] .yes), 2, [fetch, unlock]), true) := by
  rw [search_find]
  cbv

open Door in
/-- The key is fetched and the door unlocked, whether the way is trimmed or not. -/
theorem plan?_eq_untrimmed_door :
    plan? ⟨10, true⟩ ∅ [unlock, force, fetch] opened = some ⟨[fetch, unlock], opened, ∅⟩ ∧
      plan? ⟨10, false⟩ ∅ [unlock, force, fetch] opened = some ⟨[fetch, unlock], opened, ∅⟩ := by
  have hp : plan? ⟨10, true⟩ ∅ [unlock, force, fetch] opened = some ⟨[fetch, unlock], opened, ∅⟩ :=
    plan?_of_readOff search_opened (by decide)
  refine ⟨hp, ?_⟩
  rw [← plan?_eq_untrimmed (by norm_num [unlock, force, fetch]) (cut_of_readOff search_opened), hp]

end GoalPlanner
