import GoalPlanner.Plan.Choice
import GoalPlanner.Proofs.Effect
import GoalPlanner.Proofs.Facts
import GoalPlanner.Proofs.Plan.Find
import Mathlib

/-!
# Asking only where it matters

A resolver can keep a record of what it is asked for (`Resolver.traced`), which changes nothing else
(`outcome_planToGoal_traced`); `asked` is that record for planning to a goal, and it is read off the verdict
(`asked_eq`). Whether the plans from a state and from its variants by a condition agree in shape (`Agree`) decides the
verdict where that condition is the only one not known (`verdict_of_agree`, `verdict_of_differ`).

Actions of one domain have distinct names, so plans of one shape have the same actions (`actions_eq_of_shape_eq`). With
rational costs this carries what is known of one search over to the others: a condition that is not asked for cannot
hurt (`planToGoal_asks`).
-/

namespace GoalPlanner

/-! ## Shapes -/

section Shapes

theorem length_eraseDups_le_one_iff {α : Type} [BEq α] [LawfulBEq α] {xs : List α} :
    xs.eraseDups.length ≤ 1 ↔ ∀ x ∈ xs, ∀ y ∈ xs, x = y := by
  constructor
  · intro h x hx y hy
    rw [← List.mem_eraseDups] at hx hy
    match hd : xs.eraseDups with
    | [] => rw [hd] at hx; cases hx
    | [z] =>
      rw [hd, List.mem_singleton] at hx hy
      rw [hx, hy]
    | _ :: _ :: _ => rw [hd] at h; simp at h
  · intro h
    cases xs with
    | nil => simp
    | cons x xs =>
      have hf : xs.filter (fun y => !y == x) = [] := by
        refine List.filter_eq_nil_iff.2 fun y hy => ?_
        simp [h y (List.mem_cons_of_mem _ hy) x List.mem_cons_self]
      rw [List.eraseDups_cons, hf]
      simp

variable {κ : Type} [Cost κ]

/-- Of actions with distinct names, two lists with the same names are the same. -/
theorem eq_of_names_eq {actions as bs : List (Action κ)} (hd : (actions.map Action.name).Nodup)
    (has : ∀ a ∈ as, a ∈ actions) (hbs : ∀ b ∈ bs, b ∈ actions) (h : as.map Action.name = bs.map Action.name) :
    as = bs := by
  induction as generalizing bs with
  | nil => exact (List.map_eq_nil_iff.1 h.symm).symm
  | cons a as ih =>
    cases bs with
    | nil => simp at h
    | cons b bs =>
      simp only [List.map_cons, List.cons.injEq, List.forall_mem_cons] at h has hbs
      rw [List.inj_on_of_nodup_map hd has.1 hbs.1 h.1, ih has.2 hbs.2 h.2]

/-- Plans of one shape for the same actions of distinct names, from whatever states, have the same actions. -/
theorem actions_eq_of_shape_eq {o : Options} {s t : Facts} {actions : List (Action κ)} {g : Goal κ} {p q : Plan κ}
    (hd : (actions.map Action.name).Nodup) (hp : plan? o s actions g = some p) (hq : plan? o t actions g = some q)
    (h : p.shape = q.shape) : p.actions = q.actions :=
  eq_of_names_eq hd (mem_actions_of_plan? hp) (mem_actions_of_plan? hq) h

theorem map_actions_eq_of_map_shape_eq {o : Options} {s t : Facts} {actions : List (Action κ)} {g : Goal κ}
    (hd : (actions.map Action.name).Nodup)
    (h : (plan? o s actions g).map Plan.shape = (plan? o t actions g).map Plan.shape) :
    (plan? o s actions g).map Plan.actions = (plan? o t actions g).map Plan.actions := by
  cases hp : plan? o s actions g with
  | none =>
    rw [hp, Option.map_none] at h
    rw [Option.map_none, Option.map_eq_none_iff.1 h.symm, Option.map_none]
  | some p =>
    rw [hp, Option.map_some] at h
    obtain ⟨q, hq, hshape⟩ := Option.map_eq_some_iff.1 h.symm
    rw [hq, Option.map_some, Option.map_some, actions_eq_of_shape_eq hd hp hq hshape.symm]

/-- The plans from a state and from its variants by a condition have one shape; that there is no plan is a shape. -/
def Agree (o : Options) (start : Facts) (c : Name) (actions : List (Action κ)) (g : Goal κ) : Prop :=
  ∀ s ∈ start :: start.variants c, ∀ t ∈ start :: start.variants c,
    (plan? o s actions g).map Plan.shape = (plan? o t actions g).map Plan.shape

/-! ## Verdicts -/

variable {o : Options} {start : Facts} {actions : List (Action κ)} {g : Goal κ} {c : Name}

theorem verdict_of_known (h : start.unknowns = []) :
    (deliberate o start actions g).verdict = .settled (plan? o start actions g) := by
  simp only [deliberate, h]
  rfl

theorem verdict_of_several (h : 2 ≤ start.unknowns.length) :
    (deliberate o start actions g).verdict = .unsupported start.unknowns := by
  match hu : start.unknowns with
  | [] => rw [hu] at h; simp at h
  | [c] => rw [hu] at h; simp at h
  | c :: d :: cs => simp only [deliberate, hu]

theorem shapes_length_le_one_iff :
    (shapes (((start.variants c).map fun s => find o s actions g) ++ [find o start actions g])).length ≤ 1 ↔
      Agree o start c actions g := by
  have hm (x : Option (List String)) :
      x ∈ (((start.variants c).map fun s => find o s actions g) ++ [find o start actions g]).map
        (fun f => f.plan.map Plan.shape) ↔
      ∃ s ∈ start :: start.variants c, (plan? o s actions g).map Plan.shape = x := by
    simp only [List.mem_map, List.mem_append, List.mem_cons, List.not_mem_nil, or_false, Facts.variants, List.map_cons,
      List.map_nil, plan?, exists_eq_or_imp, exists_eq_left, or_assoc]
    tauto
  rw [shapes, length_eraseDups_le_one_iff, Agree]
  simp only [hm]
  constructor
  · exact fun h s hs t ht => h _ ⟨s, hs, rfl⟩ _ ⟨t, ht, rfl⟩
  · rintro h _ ⟨s, hs, rfl⟩ _ ⟨t, ht, rfl⟩
    exact h s hs t ht

theorem verdict_of_agree (h : start.unknowns = [c]) (ha : Agree o start c actions g) :
    (deliberate o start actions g).verdict = .settled (plan? o start actions g) := by
  simp only [deliberate, h]
  rw [if_neg (Nat.not_lt.2 (shapes_length_le_one_iff.2 ha))]
  rfl

theorem verdict_of_differ (h : start.unknowns = [c]) (ha : ¬Agree o start c actions g) :
    (deliberate o start actions g).verdict = .ask c := by
  simp only [deliberate, h]
  rw [if_pos (Nat.lt_of_not_le fun hl => ha (shapes_length_le_one_iff.1 hl))]

end Shapes

/-! ## What is asked for -/

section Asking

variable {σ κ : Type} [Cost κ]

/-- The resolver over a world that also lists the conditions asked for, oldest first. -/
def Resolver.traced (r : Resolver σ) : Resolver (σ × List Name) where
  state := r.state.zoom Prod.fst fun w v => (w, v.2)
  ask c := do
    Effect.change fun v => (v.1, v.2 ++ [c])
    (r.ask c).zoom Prod.fst fun w v => (w, v.2)

/-- The conditions that planning to a goal asks a resolver for, oldest first. -/
def asked (r : Resolver σ) (o : Options) (actions : List (Action κ)) (g : Goal κ) (s : Session σ) : List Name :=
  ((planToGoal r.traced o actions g).outcome ⟨(s.world, []), s.log⟩).2.world.2

/-- What a verdict asks for. -/
def Verdict.questions : Verdict κ → List Name
  | .ask c => [c]
  | _ => []

/-- Planning once the verdict is known. -/
def conclude (r : Resolver σ) (o : Options) (start : Facts) (actions : List (Action κ)) (g : Goal κ) :
    Verdict κ → Effect σ (Option (Plan κ))
  | .settled plan => return plan
  | .unsupported cs => Effect.fail (.severalUnknowns cs)
  | .ask c => do
    let t ← r.ask c
    logNotes (find o (start.set c t) actions g).notes
    return plan? o (start.set c t) actions g

variable {r : Resolver σ} {o : Options} {actions : List (Action κ)} {g : Goal κ} {s t : Session σ} {start : Facts}

/-- Planning resolves a state, logs the deliberation and follows the verdict. -/
theorem outcome_planToGoal (h : r.state.outcome s = (.ok start, t)) :
    (planToGoal r o actions g).outcome s =
      (conclude r o start actions g (deliberate o start actions g).verdict).outcome
        { t with log := t.log ++ ((deliberate o start actions g).notes.map Note.record).toArray } := by
  rw [planToGoal, Effect.outcome_bind_of_ok h, Effect.outcome_bind, logNotes, Effect.outcome_logAll]
  simp only
  cases (deliberate o start actions g).verdict <;> rfl

theorem outcome_state_traced (r : Resolver σ) (w : σ) (ns : List Name) (l : Array Log.Record) :
    r.traced.state.outcome ⟨(w, ns), l⟩ =
      ((r.state.outcome ⟨w, l⟩).1, ⟨((r.state.outcome ⟨w, l⟩).2.world, ns), (r.state.outcome ⟨w, l⟩).2.log⟩) := rfl

theorem outcome_ask_traced (r : Resolver σ) (c : Name) (w : σ) (ns : List Name) (l : Array Log.Record) :
    (r.traced.ask c).outcome ⟨(w, ns), l⟩ =
      (((r.ask c).outcome ⟨w, l⟩).1,
        ⟨(((r.ask c).outcome ⟨w, l⟩).2.world, ns ++ [c]), ((r.ask c).outcome ⟨w, l⟩).2.log⟩) := rfl

/-- Following a verdict over a traced resolver does the same, and puts down what the verdict asks for. -/
theorem outcome_conclude_traced (r : Resolver σ) (o : Options) (start : Facts) (actions : List (Action κ)) (g : Goal κ)
    (v : Verdict κ) (w : σ) (ns : List Name) (l : Array Log.Record) :
    (conclude r.traced o start actions g v).outcome ⟨(w, ns), l⟩ =
      (((conclude r o start actions g v).outcome ⟨w, l⟩).1,
        ⟨(((conclude r o start actions g v).outcome ⟨w, l⟩).2.world, ns ++ v.questions),
          ((conclude r o start actions g v).outcome ⟨w, l⟩).2.log⟩) := by
  cases v with
  | settled plan => simp [conclude, Verdict.questions]
  | unsupported cs => simp [conclude, Verdict.questions]
  | ask c =>
    simp only [conclude, Verdict.questions, Effect.outcome_bind, outcome_ask_traced]
    rcases (r.ask c).outcome ⟨w, l⟩ with ⟨x, t⟩
    cases x <;> rfl

/-- Keeping a record of what is asked for changes neither the outcome nor the world nor the log. -/
theorem outcome_planToGoal_traced (r : Resolver σ) (o : Options) (actions : List (Action κ)) (g : Goal κ)
    (s : Session σ) :
    (planToGoal r.traced o actions g).outcome ⟨(s.world, []), s.log⟩ =
      (((planToGoal r o actions g).outcome s).1,
        ⟨(((planToGoal r o actions g).outcome s).2.world, asked r o actions g s),
          ((planToGoal r o actions g).outcome s).2.log⟩) := by
  have hs := outcome_state_traced r s.world [] s.log
  rcases h : r.state.outcome s with ⟨x, t⟩
  rw [h] at hs
  cases x with
  | error x =>
    rw [asked, planToGoal, planToGoal, Effect.outcome_bind_of_error hs, Effect.outcome_bind_of_error h]
  | ok start =>
    rw [asked, outcome_planToGoal hs, outcome_planToGoal h, outcome_conclude_traced]

/-- What is asked for is what the verdict asks for. -/
theorem asked_eq (h : r.state.outcome s = (.ok start, t)) :
    asked r o actions g s = (deliberate o start actions g).verdict.questions := by
  have hs := outcome_state_traced r s.world [] s.log
  rw [h] at hs
  rw [asked, outcome_planToGoal hs, outcome_conclude_traced]
  rfl

end Asking

/-! ## An unknown condition that is not asked for -/

section Unasked

variable {o : Options} {start : Facts} {actions : List (Action Rat)} {g : Goal Rat} {c : Name}

/-- Where the plans agree, a plan achieves the goal from the state and from its variants. -/
theorem achieves_of_agree (hd : (actions.map Action.name).Nodup) (ha : Agree o start c actions g) {p : Plan Rat}
    (hp : plan? o start actions g = some p) {v : Facts} (hv : v ∈ start :: start.variants c) :
    achieves v p.actions g = true := by
  have hs : (plan? o start actions g).map Plan.shape = (plan? o v actions g).map Plan.shape :=
    ha start List.mem_cons_self v hv
  rw [hp, Option.map_some] at hs
  obtain ⟨q, hq, hshape⟩ := Option.map_eq_some_iff.1 hs.symm
  rw [actions_eq_of_shape_eq hd hp hq hshape.symm]
  exact (achieves_of_plan? hq).1

/-- Where the plans agree that there is none and no search was cut short, the goal is out of reach from the state and
from its variants. -/
theorem not_achieves_of_agree (ha : Agree o start c actions g) (hp : plan? o start actions g = none) {v : Facts}
    (hv : v ∈ start :: start.variants c) (hcut : (find o v actions g).cut = false) {as : List (Action Rat)}
    (has : ∀ a ∈ as, a ∈ actions) : achieves v as g = false := by
  have hs : (plan? o start actions g).map Plan.shape = (plan? o v actions g).map Plan.shape :=
    ha start List.mem_cons_self v hv
  rw [hp, Option.map_none] at hs
  exact not_achieves_of_plan?_eq_none hcut (Option.map_eq_none_iff.1 hs.symm) has

/-- How often planning asks for a condition, and why what it leaves open cannot hurt. Where just one condition is not
known, the resolver is asked for it once if the three plans differ in shape and never if they agree; and then a plan
achieves the goal from the state and from both variants, and where there is no plan and no search was cut short, the
goal is out of reach from all three. Where all is known, nothing is asked. Where several conditions are not known,
planning fails with their names in order and asks nothing. -/
theorem planToGoal_asks {σ : Type} (r : Resolver σ) (o : Options) (actions : List (Action Rat))
    (hd : (actions.map Action.name).Nodup) (g : Goal Rat) (s t : Session σ) (start : Facts)
    (h : r.state.outcome s = (.ok start, t)) :
    (∀ c, (∀ n, start.get? n = some .unknown ↔ n = c) →
      (¬Agree o start c actions g → asked r o actions g s = [c]) ∧
      (Agree o start c actions g → asked r o actions g s = [] ∧
        ((planToGoal r o actions g).outcome s).1 = .ok (plan? o start actions g)) ∧
      (asked r o actions g s = [] →
        (∀ p, ((planToGoal r o actions g).outcome s).1 = .ok (some p) →
          ∀ v ∈ [start, start.set c .yes, start.set c .no], achieves v p.actions g = true) ∧
        (((planToGoal r o actions g).outcome s).1 = .ok none →
          (∀ v ∈ [start, start.set c .yes, start.set c .no], (find o v actions g).cut = false) →
          ∀ v ∈ [start, start.set c .yes, start.set c .no], ∀ as : List (Action Rat), (∀ a ∈ as, a ∈ actions) →
            achieves v as g = false))) ∧
    ((∀ n, start.get? n ≠ some .unknown) → asked r o actions g s = []) ∧
    ((∃ m n, m ≠ n ∧ start.get? m = some .unknown ∧ start.get? n = some .unknown) →
      asked r o actions g s = [] ∧
      ∃ cs, ((planToGoal r o actions g).outcome s).1 = .error (.severalUnknowns cs) ∧
        (∀ n, n ∈ cs ↔ start.get? n = some .unknown) ∧ cs.Pairwise fun a b => a.before b = true) := by
  refine ⟨fun c hc => ?_, fun hn => ?_, ?_⟩
  · have hu := Facts.unknowns_eq_singleton hc
    have hdiffer (ha : ¬Agree o start c actions g) : asked r o actions g s = [c] := by
      rw [asked_eq h, verdict_of_differ hu ha]
      rfl
    have hagree (ha : Agree o start c actions g) : asked r o actions g s = [] ∧
        ((planToGoal r o actions g).outcome s).1 = .ok (plan? o start actions g) := by
      rw [asked_eq h, outcome_planToGoal h, verdict_of_agree hu ha]
      exact ⟨rfl, rfl⟩
    refine ⟨hdiffer, hagree, fun hnone => ?_⟩
    have ha : Agree o start c actions g := by
      by_contra ha
      rw [hdiffer ha] at hnone
      cases hnone
    rw [(hagree ha).2]
    simp only [Except.ok.injEq]
    exact ⟨fun p hp v hv => achieves_of_agree hd ha hp hv,
      fun hp hcut v hv as has => not_achieves_of_agree ha hp hv (hcut v hv) has⟩
  · rw [asked_eq h, verdict_of_known (Facts.unknowns_eq_nil hn)]
    rfl
  · rintro ⟨m, n, hmn, hm, hn⟩
    have hu : 2 ≤ start.unknowns.length := Facts.two_le_length_unknowns hmn hm hn
    rw [asked_eq h, outcome_planToGoal h, verdict_of_several hu]
    exact ⟨rfl, start.unknowns, rfl, fun n => Facts.mem_unknowns, start.sorted_unknowns⟩

theorem Door.open_iff {n : Name} : (Facts.uniform ["k"] .unknown).get? n = some .unknown ↔ n = "k" := by
  simp [Facts.get?_uniform]

open Door in
/-- Only whoever has the key gets the door unlocked, so the key is asked for. -/
theorem planToGoal_asks_door :
    asked ⟨return Facts.uniform ["k"] .unknown, fun _ => return .yes⟩ ⟨10, true⟩ [unlock] opened ⟨(), #[]⟩ = ["k"] := by
  have hyes : plan? ⟨10, true⟩ ((Facts.uniform ["k"] .unknown).set "k" .yes) [unlock] opened = some _ :=
    plan?_keyed rfl (by decide)
  have hno : plan? ⟨10, true⟩ ((Facts.uniform ["k"] .unknown).set "k" .no) [unlock] opened = none :=
    plan?_keyless (by decide) (by decide)
  have hdiffer : ¬Agree ⟨10, true⟩ (Facts.uniform ["k"] .unknown) "k" [unlock] opened := by
    intro ha
    have h := ha _ (.tail _ (.head _)) _ (.tail _ (.tail _ (.head _)))
    rw [hyes, hno] at h
    cases h
  exact ((planToGoal_asks ⟨return Facts.uniform ["k"] .unknown, fun _ => return .yes⟩ ⟨10, true⟩ [unlock]
    (by decide) opened ⟨(), #[]⟩ ⟨(), #[]⟩ _ rfl).1 "k" fun _ => open_iff).1 hdiffer

end Unasked

end GoalPlanner
