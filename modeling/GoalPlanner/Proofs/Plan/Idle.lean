import GoalPlanner.Proofs.Agreement
import GoalPlanner.Proofs.Plan.Best
import Mathlib

/-!
# No action is idle

The backward sweep never looks at a state, and yet it is safe. What is still needed before an action (`Sweep.needed`)
is true in every state from which the whole sequence achieves the goal, so an action that is dropped sets none of it,
and one that is kept sets nothing of it otherwise. Hence the actions kept achieve the goal from any state in which what
is needed is true (`Sweep.achieves_dropIdle`), the sweep is adopted whenever it drops anything, and a second sweep
drops nothing more (`Sweep.dropIdle_safe`).

What is needed is required by the goal or by an action kept (`Sweep.required_of_needed`). So in a plan that was trimmed
every action brings about something that the goal or a later action requires (`plan?_none_idle`).
-/

namespace GoalPlanner

variable {κ : Type} [Cost κ]

/-! ## What an action does for a requirement -/

/-- An action brings about something that is required. -/
def Action.Serves (a : Action κ) (r : Facts) : Prop := ∃ n v, a.eff.get? n = some v ∧ r.get? n = some v

theorem Action.get?_apply (a : Action κ) (s : Facts) (n : Name) :
    (a.apply s).get? n = (a.eff.get? n).or (s.get? n) := Table.get?_merge s a.eff n

/-- Where a requirement is met after an action, the action sets nothing of it otherwise. -/
theorem Action.eff_eq_of_meets {a : Action κ} {s r : Facts} (h : (a.apply s).meets r = true) {n : Name} {v w : Truth}
    (hr : r.get? n = some v) (ha : a.eff.get? n = some w) : w = v := by
  have hv := Facts.meets_iff.1 h n v hr
  rw [a.get?_apply, ha, Option.some_or, Option.some.injEq] at hv
  exact hv

/-- What an action does not serve is met before it if it is met after it. -/
theorem Action.meets_of_not_serves {a : Action κ} {s r : Facts} (ha : ¬a.Serves r) (h : (a.apply s).meets r = true) :
    s.meets r = true := by
  refine Facts.meets_iff.2 fun n v hr => ?_
  have hv := Facts.meets_iff.1 h n v hr
  rw [a.get?_apply] at hv
  cases hn : a.eff.get? n with
  | none => rwa [hn, Option.none_or] at hv
  | some w => exact absurd ⟨n, v, eff_eq_of_meets h hr hn ▸ hn, hr⟩ ha

/-! ## The backward sweep -/

namespace Sweep

variable {g : Goal κ} {a : Action κ} {as : List (Action κ)} {s : Facts}

/-- What is needed before a sequence of actions so that those kept of it lead to the goal. -/
def needed (g : Goal κ) (as : List (Action κ)) : Facts := (as.foldr keepIfNeeded ([], g.pre)).2

theorem keepIfNeeded_of_not_serves {later : List (Action κ) × Facts} (h : ¬a.Serves later.2) :
    keepIfNeeded a later = later := by
  have hempty : (a.eff.entries.filter fun e => later.2.get? e.1 == some e.2) = [] := by
    refine List.filter_eq_nil_iff.2 fun e he hr => h ⟨e.1, e.2, Table.get?_eq_some_iff.2 he, ?_⟩
    simpa using hr
  simp [keepIfNeeded, hempty]

/-- An action that serves what is still needed is kept. What it requires is needed before it, and so is what was needed
anyway, but not what it brings about itself. -/
theorem keepIfNeeded_of_serves {later : List (Action κ) × Facts} (h : a.Serves later.2) :
    (keepIfNeeded a later).1 = a :: later.1 ∧ ∀ n, (keepIfNeeded a later).2.get? n =
      (a.pre.get? n).or (if a.eff.get? n = later.2.get? n then none else later.2.get? n) := by
  have hmem (n : Name) : n ∈ (a.eff.entries.filter fun e => later.2.get? e.1 == some e.2).map Prod.fst ↔
      ∃ v, a.eff.get? n = some v ∧ later.2.get? n = some v := by
    simp [Table.get?_eq_some_iff (t := a.eff)]
  obtain ⟨m, w, hm⟩ := h
  have hne : (a.eff.entries.filter fun e => later.2.get? e.1 == some e.2) ≠ [] := by
    intro he
    have hmap := (hmem m).2 ⟨w, hm⟩
    rw [he] at hmap
    cases hmap
  simp only [keepIfNeeded, List.isEmpty_iff, hne, if_false, true_and]
  intro n
  rw [Table.get?_merge, Table.get?_foldl_erase, if_congr (hmem n) rfl rfl]
  congr 1
  cases hn : later.2.get? n with
  | none => simp
  | some v => simp [eq_comm]

theorem dropIdle_of_not_serves (h : ¬a.Serves (needed g as)) :
    dropIdle g (a :: as) = dropIdle g as ∧ needed g (a :: as) = needed g as := by
  rw [dropIdle, needed, List.foldr_cons, keepIfNeeded_of_not_serves h]
  exact ⟨rfl, rfl⟩

theorem dropIdle_of_serves (h : a.Serves (needed g as)) :
    dropIdle g (a :: as) = a :: dropIdle g as ∧ ∀ n, (needed g (a :: as)).get? n =
      (a.pre.get? n).or (if a.eff.get? n = (needed g as).get? n then none else (needed g as).get? n) := by
  rw [dropIdle, needed, List.foldr_cons]
  exact keepIfNeeded_of_serves h

/-- Where an action can be carried out and leads to what is needed after it, what is needed before it is true. -/
theorem meets_needed_cons (hav : a.available s = true) (hlater : (a.apply s).meets (needed g as) = true) :
    s.meets (needed g (a :: as)) = true := by
  by_cases ha : a.Serves (needed g as)
  · refine Facts.meets_iff.2 fun n v hn => ?_
    rw [(dropIdle_of_serves ha).2, Option.or_eq_some_iff] at hn
    rcases hn with hpre | ⟨-, hn⟩
    · exact Facts.meets_iff.1 hav n v hpre
    · obtain ⟨hne, hn⟩ := Option.ite_none_left_eq_some.1 hn
      have hv := Facts.meets_iff.1 hlater n v hn
      rw [a.get?_apply] at hv
      cases he : a.eff.get? n with
      | none => rwa [he, Option.none_or] at hv
      | some w => exact absurd (by rw [he, hn, Action.eff_eq_of_meets hlater hn he]) hne
  · rw [(dropIdle_of_not_serves ha).2]
    exact Action.meets_of_not_serves ha hlater

/-- An action that is kept can be carried out wherever what is needed before it is true, and leads to what is needed
after it, if it does so from any state at all. -/
theorem meets_needed_apply {t : Facts} (ha : a.Serves (needed g as)) (hav : a.available s = true)
    (hlater : (a.apply s).meets (needed g as) = true) (ht : t.meets (needed g (a :: as)) = true) :
    a.available t = true ∧ (a.apply t).meets (needed g as) = true := by
  have hneeded := (dropIdle_of_serves ha).2
  constructor
  · refine Facts.meets_iff.2 fun n v hn => Facts.meets_iff.1 ht n v ?_
    rw [hneeded, hn, Option.some_or]
  · refine Facts.meets_iff.2 fun n v hn => ?_
    rw [a.get?_apply]
    cases he : a.eff.get? n with
    | some w => rw [Action.eff_eq_of_meets hlater hn he, Option.some_or]
    | none =>
      refine Facts.meets_iff.1 ht n v ?_
      rw [hneeded, he, hn, if_neg nofun]
      cases hp : a.pre.get? n with
      | none => rfl
      | some u =>
        -- the action leaves the condition alone, so it requires what is needed after it
        have hu := Facts.meets_iff.1 hav n u hp
        have hv := Facts.meets_iff.1 hlater n v hn
        rw [a.get?_apply, he, Option.none_or, hu] at hv
        exact hv

/-- Where a sequence achieves the goal, what is needed before it is true. -/
theorem meets_needed (h : achieves s as g = true) : s.meets (needed g as) = true := by
  induction as generalizing s with
  | nil => exact h
  | cons a as ih =>
    obtain ⟨hav, hach⟩ := achieves_cons.1 h
    exact meets_needed_cons hav (ih hach)

/-- Where a sequence achieves the goal from a state, what is kept of it achieves the goal from every state in which
what is needed is true. -/
theorem achieves_dropIdle {t : Facts} (h : achieves s as g = true) (ht : t.meets (needed g as) = true) :
    achieves t (dropIdle g as) g = true := by
  induction as generalizing s t with
  | nil => exact ht
  | cons a as ih =>
    obtain ⟨hav, hach⟩ := achieves_cons.1 h
    by_cases ha : a.Serves (needed g as)
    · obtain ⟨havt, hlater⟩ := meets_needed_apply ha hav (meets_needed hach) ht
      rw [(dropIdle_of_serves ha).1]
      exact achieves_cons.2 ⟨havt, ih hach hlater⟩
    · rw [(dropIdle_of_not_serves ha).2] at ht
      rw [(dropIdle_of_not_serves ha).1]
      exact ih hach ht

/-- A sweep over what is kept comes to the same as the sweep before. -/
theorem foldr_dropIdle (g : Goal κ) (as : List (Action κ)) :
    (dropIdle g as).foldr keepIfNeeded ([], g.pre) = as.foldr keepIfNeeded ([], g.pre) := by
  induction as with
  | nil => rfl
  | cons a as ih =>
    by_cases ha : a.Serves (needed g as)
    · rw [(dropIdle_of_serves ha).1, List.foldr_cons, List.foldr_cons, ih]
    · rw [(dropIdle_of_not_serves ha).1, ih, List.foldr_cons, keepIfNeeded_of_not_serves ha]

/-- Of a sequence that achieves the goal, what the backward sweep keeps is adopted if it is shorter. -/
theorem adopt?_backward (h : achieves s as g = true) :
    backward.adopt? s g as = if (dropIdle g as).length < as.length then some (dropIdle g as) else none := by
  have hkept : achieves s (backward.apply s g as) g = true := achieves_dropIdle h (meets_needed h)
  simp only [adopt?, hkept, Bool.and_true, decide_eq_true_eq]
  rfl

/-- The backward sweep is safe. What it keeps of a sequence that achieves the goal are some of the actions, in their
order, and they achieve the goal too; so it is adopted whenever it drops anything. And what it has kept of any sequence
at all, it keeps. -/
theorem dropIdle_safe (s : Facts) (g : Goal κ) :
    (∀ as, achieves s as g = true →
      (dropIdle g as).Sublist as ∧ achieves s (dropIdle g as) g = true ∧
        ((dropIdle g as).length < as.length → backward.adopt? s g as = some (dropIdle g as))) ∧
    ∀ as, dropIdle g (dropIdle g as) = dropIdle g as :=
  ⟨fun as h => ⟨sublist_dropIdle g as, achieves_dropIdle h (meets_needed h),
    fun hlt => (adopt?_backward h).trans (if_pos hlt)⟩, fun as => congrArg Prod.fst (foldr_dropIdle g as)⟩

open Shop in
/-- Of notify, build and deliver, which achieve that the goods are there, build and deliver are kept. -/
theorem dropIdle_safe_shop :
    achieves start [notify, build, deliver] goods = true ∧ dropIdle goods [notify, build, deliver] = [build, deliver] ∧
      achieves start [build, deliver] goods = true := by
  have hach : achieves start [notify, build, deliver] goods = true := by cbv
  have hkept : dropIdle goods [notify, build, deliver] = [build, deliver] := by cbv
  have hsafe := (dropIdle_safe start goods).1 [notify, build, deliver] hach
  rw [hkept] at hsafe
  exact ⟨hach, hkept, hsafe.2.1⟩

/-! ## What the actions kept are for -/

/-- What is needed before a sequence is required by the goal or by an action kept. -/
theorem required_of_needed {n : Name} {v : Truth} (h : (needed g as).get? n = some v) :
    g.pre.get? n = some v ∨ ∃ b ∈ dropIdle g as, b.pre.get? n = some v := by
  induction as with
  | nil => exact .inl h
  | cons a as ih =>
    by_cases ha : a.Serves (needed g as)
    · obtain ⟨hkept, hneeded⟩ := dropIdle_of_serves ha
      rw [hneeded, Option.or_eq_some_iff] at h
      rw [hkept]
      rcases h with hpre | ⟨-, hn⟩
      · exact .inr ⟨a, List.mem_cons_self, hpre⟩
      · obtain ⟨-, hn⟩ := Option.ite_none_left_eq_some.1 hn
        exact (ih hn).imp_right fun ⟨b, hb, hpre⟩ => ⟨b, List.mem_cons_of_mem a hb, hpre⟩
    · rw [(dropIdle_of_not_serves ha).2] at h
      rw [(dropIdle_of_not_serves ha).1]
      exact ih h

/-- Every action of a sequence brings about something that the goal or a later action requires. -/
def NoneIdle (g : Goal κ) (as : List (Action κ)) : Prop :=
  ∀ a later, a :: later <:+ as →
    ∃ n v, a.eff.get? n = some v ∧ (g.pre.get? n = some v ∨ ∃ b ∈ later, b.pre.get? n = some v)

theorem noneIdle_dropIdle (g : Goal κ) (as : List (Action κ)) : NoneIdle g (dropIdle g as) := by
  induction as with
  | nil => exact fun a later h => absurd (List.suffix_nil.1 h) (List.cons_ne_nil a later)
  | cons a as ih =>
    by_cases ha : a.Serves (needed g as)
    · rw [(dropIdle_of_serves ha).1]
      intro b later h
      rcases List.suffix_cons_iff.1 h with heq | h
      · obtain ⟨rfl, rfl⟩ := List.cons.inj heq
        obtain ⟨n, v, heff, hn⟩ := ha
        exact ⟨n, v, heff, required_of_needed hn⟩
      · exact ih b later h
    · rw [(dropIdle_of_not_serves ha).1]
      exact ih

theorem noneIdle_keepProgress (g : Goal κ) (s : Facts) (as : List (Action κ)) : NoneIdle g (keepProgress g s as) := by
  induction as generalizing s with
  | nil => exact fun a later h => absurd (List.suffix_nil.1 h) (List.cons_ne_nil a later)
  | cons a as ih =>
    rw [keepProgress]
    split
    · rename_i hkeep
      intro b later h
      rcases List.suffix_cons_iff.1 h with heq | h
      · obtain ⟨rfl, rfl⟩ := List.cons.inj heq
        simp only [progresses, Bool.and_eq_true, List.any_eq_true, beq_iff_eq] at hkeep
        obtain ⟨-, -, e, he, hgoal, -⟩ := hkeep
        exact ⟨e.1, e.2, Table.get?_eq_some_iff.2 he, .inl hgoal⟩
      · exact ih _ b later h
    · exact ih s

end Sweep

/-! ## Plans -/

/-- Of a sequence that achieves the goal, trimming goes on with what the backward sweep keeps. -/
theorem trimBy_backward {s : Facts} {g : Goal κ} {as : List (Action κ)} (h : achieves s as g = true)
    (ws : List Sweep) : (trimBy s g (.backward :: ws) as).1 = (trimBy s g ws (Sweep.dropIdle g as)).1 := by
  rw [trimBy, Sweep.adopt?_backward h]
  by_cases hlt : (Sweep.dropIdle g as).length < as.length
  · rw [if_pos hlt]
  · rw [if_neg hlt, (Sweep.sublist_dropIdle g as).eq_of_length_le (Nat.le_of_not_lt hlt)]

/-- Both sweeps together leave no action idle, whichever of them are adopted. -/
theorem noneIdle_trimBy {s : Facts} {g : Goal κ} {as : List (Action κ)} (h : achieves s as g = true) :
    Sweep.NoneIdle g (trimBy s g [.backward, .forward] as).1 := by
  rw [trimBy_backward h, trimBy]
  cases hw : Sweep.forward.adopt? s g (Sweep.dropIdle g as) with
  | none => exact Sweep.noneIdle_dropIdle g as
  | some kept =>
    obtain ⟨rfl, -, -⟩ := Sweep.adopt?_eq_some_iff.1 hw
    exact Sweep.noneIdle_keepProgress g s _

/-- A plan is what trimming leaves of a way that achieves the goal. -/
theorem exists_way_of_plan? {o : Options} {start : Facts} {actions : List (Action Rat)} {g : Goal Rat} {p : Plan Rat}
    (h : plan? o start actions g = some p) :
    ∃ way, achieves start way g = true ∧
      p.actions = (trimBy start g (if o.trims then [.backward, .forward] else []) way).1 := by
  have hbest : (find o start actions g).search.best ≠ none := fun hb => by
    rw [plan?_eq_none_iff.2 hb] at h
    cases h
  obtain ⟨⟨n, b⟩, hb⟩ := Option.ne_none_iff_exists'.1 hbest
  obtain ⟨way, hway, hach, -⟩ := way_of_best hb
  rw [plan?_eq, hway] at h
  cases h
  exact ⟨way, hach, rfl⟩

/-- No action of a plan is idle. If ways found are trimmed, then whatever the limit of the search, every action of a
plan brings about something that the goal requires, or an action that comes later in the plan. -/
theorem plan?_none_idle {o : Options} {start : Facts} {actions : List (Action Rat)} {g : Goal Rat} {p : Plan Rat}
    (ho : o.trims = true) (h : plan? o start actions g = some p) :
    ∀ a later, a :: later <:+ p.actions →
      ∃ n v, a.eff.get? n = some v ∧ (g.pre.get? n = some v ∨ ∃ b ∈ later, b.pre.get? n = some v) := by
  obtain ⟨way, hach, hp⟩ := exists_way_of_plan? h
  rw [ho, if_pos rfl] at hp
  rw [hp]
  exact noneIdle_trimBy hach

open Shop in
/-- The notice led the search to build and deliver, but it is not part of the plan; what is built is for delivering. -/
theorem plan?_none_idle_shop :
    ∃ p, plan? ⟨100, true⟩ start [notify, build, deliver, take] goods = some p ∧ [build, deliver] <:+ p.actions ∧
      ∃ n v, build.eff.get? n = some v ∧ (goods.pre.get? n = some v ∨ ∃ b ∈ [deliver], b.pre.get? n = some v) := by
  have hp : plan? ⟨100, true⟩ start [notify, build, deliver, take] goods = some ⟨[build, deliver], goods, start⟩ :=
    plan?_of_readOff search_goods (by decide)
  exact ⟨_, hp, List.suffix_refl _, plan?_none_idle rfl hp build [deliver] (List.suffix_refl _)⟩

end GoalPlanner
