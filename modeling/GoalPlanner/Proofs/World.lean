import GoalPlanner.Proofs.Effect
import GoalPlanner.Proofs.Facts
import GoalPlanner.World
import Mathlib.Tactic.Choose

/-!
# What a world answers

What a registry keeps does not change what is looked up in it (`Steady`, `Registry.steady_answers`,
`Blackboard.steady_value?`). So worlds with the same blackboard and the same capabilities (`World.Alike`) answer alike
whatever was asked before (`result_read_congr`), and a reading leaves a world that is like the one before
(`alike_after_read`). The conditions of a state are therefore all read as in the first world (`outcome_state`), and
there is a state only where all of them can be read (`result_read_of_state`).
-/

namespace GoalPlanner

/-! ## Kept names -/

/-- A look into a registry that finds the same whatever is kept, and that registers nothing. -/
structure Steady {α : Type} (look : StateM Registry α) : Prop where
  found : ∀ r s : Registry, r.capabilities = s.capabilities → (look.run r).1 = (look.run s).1
  capabilities : ∀ r : Registry, (look.run r).2.capabilities = r.capabilities

section Looking

variable {α β : Type}

theorem steady_pure (a : α) : Steady (pure a) := ⟨fun _ _ _ => rfl, fun _ => rfl⟩

theorem steady_bind {look : StateM Registry α} {next : α → StateM Registry β} (h : Steady look)
    (hn : ∀ a, Steady (next a)) : Steady (look >>= next) := by
  constructor
  · intro r s hrs
    have hcap : (look.run r).2.capabilities = (look.run s).2.capabilities := by
      rw [h.capabilities, h.capabilities, hrs]
    show ((next (look.run r).1).run (look.run r).2).1 = ((next (look.run s).1).run (look.run s).2).1
    rw [h.found r s hrs]
    exact (hn _).found _ _ hcap
  · intro r
    show ((next (look.run r).1).run (look.run r).2).2.capabilities = r.capabilities
    rw [(hn _).capabilities, h.capabilities]

/-- A kind answers to the same names before and after its names are kept. -/
theorem Registry.steady_answers (k : Kind) (name : String) : Steady fun r => r.answers k name := by
  constructor
  · intro r s hrs
    show (r.lookup k).1.contains name = (s.lookup k).1.contains name
    rw [lookup_fst, lookup_fst, hrs]
  · exact fun r => capabilities_lookup r k

namespace Blackboard

theorem steady_fits (v : Value) (name : String) (label : Option String) : Steady (fits v name label) := by
  refine steady_bind (Registry.steady_answers v.kind name) fun b => ?_
  cases b
  · exact steady_pure _
  · exact steady_pure _

theorem steady_firstFit (name : String) (es : List (Value × Option String)) : Steady (firstFit name es) := by
  induction es with
  | nil => exact steady_pure _
  | cons e es ih =>
    refine steady_bind (steady_fits e.1 name e.2) fun b => ?_
    cases b
    · exact ih
    · exact steady_pure _

theorem steady_value? (b : Blackboard) (var name : String) : Steady (b.value? var name) := by
  -- what is found where nothing is bound to the variable precisely
  have hany : Steady (if wildcards.contains var then firstFit name b.entries.reverse else pure none) := by
    split
    · exact steady_firstFit ..
    · exact steady_pure _
  unfold value?
  cases b.bound? var with
  | none => exact hany
  | some v =>
    refine steady_bind (steady_fits v name _) fun fit => ?_
    cases fit
    · exact hany
    · exact steady_pure _

end Blackboard

end Looking

/-! ## Worlds that answer alike -/

/-- Worlds with the same blackboard and capabilities; what is kept and what has run may differ. -/
structure World.Alike (u w : World) : Prop where
  blackboard : u.blackboard = w.blackboard
  capabilities : u.registry.capabilities = w.registry.capabilities

namespace World.Alike

variable {u v w : World}

protected theorem refl (w : World) : w.Alike w := ⟨rfl, rfl⟩

protected theorem symm (h : u.Alike w) : w.Alike u := ⟨h.blackboard.symm, h.capabilities.symm⟩

protected theorem trans (h : u.Alike v) (h' : v.Alike w) : u.Alike w :=
  ⟨h.blackboard.trans h'.blackboard, h.capabilities.trans h'.capabilities⟩

end World.Alike

namespace Resolution

variable {κ : Type} [Cost κ] {r : Resolution κ} {history : List String} {u w : World} {early : Bool} {name : String}

/-- What is read depends on the blackboard and the capabilities only. -/
theorem result_read_congr (h : u.Alike w) :
    (r.read history u early name).result = (r.read history w early name).result := by
  rw [read, read]
  cases Query.ofName r.conditions name with
  | binding var kind =>
    simp only [answer, h.blackboard]
    have hv := (Blackboard.steady_value? w.blackboard var kind).found _ _ h.capabilities
    exact congrArg (fun v : Option Value => Except.ok (Truth.ofBool v.isSome)) hv
  | named c =>
    simp only [answer, h.blackboard]
    split
    · rfl
    · split <;> rfl
  | _ => simp only [answer, h.blackboard]

theorem alike_after_read : (w.after (r.read history w early name)).Alike w := by
  refine ⟨rfl, ?_⟩
  show (r.read history w early name).registry.capabilities = w.registry.capabilities
  rw [read]
  cases Query.ofName r.conditions name with
  | binding var kind => exact (Blackboard.steady_value? w.blackboard var kind).capabilities _
  | named c =>
    simp only [answer]
    split
    · rfl
    · split <;> rfl
  | _ => rfl

/-! ## Reading conditions with evaluators -/

section Evaluated

variable {c : Condition κ}

theorem waits_eq_false (h : early = true → r.defers c = false) : (early && r.defers c) = false := by
  cases early with
  | false => rfl
  | true => exact h rfl

/-- A condition whose evaluation does not wait has the value that the evaluation gives. -/
theorem result_answer_named (h : early = true → r.defers c = false) :
    (r.answer history w early name (.named c)).result = (c.evaluate ⟨w.blackboard, history⟩).result := by
  simp only [answer, waits_eq_false h, Bool.false_eq_true, if_false]
  cases (c.evaluate ⟨w.blackboard, history⟩).result <;> rfl

/-- The evaluators of a condition whose evaluation does not wait run as they do in the evaluation. -/
theorem ran_answer_named (h : early = true → r.defers c = false) :
    (r.answer history w early name (.named c)).ran = (c.evaluate ⟨w.blackboard, history⟩).ran := by
  simp only [answer, waits_eq_false h, Bool.false_eq_true, if_false]
  cases (c.evaluate ⟨w.blackboard, history⟩).result <;> rfl

end Evaluated

/-! ## Reading conditions in turn -/

variable {s : Session World}

theorem outcome_determine (n : Name) :
    (r.determine history early n).outcome s =
      ((r.read history s.world early n.shown).result,
        ⟨s.world.after (r.read history s.world early n.shown),
          s.log ++ (r.read history s.world early n.shown).records.toArray⟩) := by
  rw [determine, Effect.outcome_bind_of_ok (Effect.outcome_world s), Reading.perform,
    Effect.outcome_bind_of_ok (Effect.outcome_change _ s), Effect.outcome_bind_of_ok (Effect.outcome_logAll _ _),
    Effect.outcome_ofExcept]

/-- Where each condition can be read, all of them are. -/
theorem outcome_determineAll {names : List Name} {f : Name → Truth}
    (h : ∀ n ∈ names, (r.read history s.world true n.shown).result = .ok (f n)) :
    ∃ t, (r.determineAll history names).outcome s = (.ok (names.map fun n => (n, f n)), t) ∧
      t.world.Alike s.world := by
  induction names generalizing s with
  | nil => exact ⟨s, rfl, .refl _⟩
  | cons n names ih =>
    obtain ⟨u, hu, hlike⟩ : ∃ u, (r.determine history true n).outcome s = (.ok (f n), u) ∧ u.world.Alike s.world :=
      ⟨_, by rw [outcome_determine, h n List.mem_cons_self], alike_after_read⟩
    obtain ⟨t, ht, htlike⟩ := ih (s := u) fun m hm =>
      (result_read_congr hlike).trans (h m (List.mem_cons_of_mem _ hm))
    refine ⟨t, ?_, htlike.trans hlike⟩
    rw [determineAll, Effect.outcome_bind_of_ok hu, Effect.outcome_bind_of_ok ht]
    rfl

/-- All conditions in a row are read only where each of them can be read. -/
theorem exists_result_of_determineAll {names : List Name} {xs : List (Name × Truth)} {t : Session World}
    (h : (r.determineAll history names).outcome s = (.ok xs, t)) :
    ∀ n ∈ names, ∃ v, (r.read history s.world true n.shown).result = .ok v := by
  induction names generalizing s xs t with
  | nil => exact List.forall_mem_nil _
  | cons m names ih =>
    rw [determineAll] at h
    obtain ⟨v, u, hm, h⟩ := Effect.outcome_bind_eq_ok_iff.1 h
    obtain ⟨ys, u', hrest, -⟩ := Effect.outcome_bind_eq_ok_iff.1 h
    rw [outcome_determine, Prod.mk.injEq] at hm
    obtain ⟨hm, rfl⟩ := hm
    refine List.forall_mem_cons.2 ⟨⟨v, hm⟩, fun n hn => ?_⟩
    obtain ⟨x, hx⟩ := ih hrest n hn
    exact ⟨x, (result_read_congr alike_after_read).symm.trans hx⟩

/-- The state that a world supplies says of each condition what is read of it. -/
theorem outcome_state {f : Name → Truth}
    (h : ∀ n ∈ r.known, (r.read history s.world true n.shown).result = .ok (f n)) :
    ∃ t, (r.resolver history).state.outcome s = (.ok (Facts.ofNames r.known f), t) ∧ t.world.Alike s.world := by
  obtain ⟨t, ht, hlike⟩ := outcome_determineAll h
  refine ⟨t, ?_, hlike⟩
  rw [resolver, Effect.outcome_bind_of_ok ht]
  rfl

/-- A state that a world supplies says of each condition that is known what is read of it. -/
theorem result_read_of_state {x : Facts} {t : Session World} (hd : r.known.Nodup)
    (h : (r.resolver history).state.outcome s = (.ok x, t)) {n : Name} (hn : n ∈ r.known) :
    ∃ v, (r.read history s.world true n.shown).result = .ok v ∧ x.get? n = some v := by
  obtain ⟨xs, u, hall, -⟩ := Effect.outcome_bind_eq_ok_iff.1 h
  choose! f hf using exists_result_of_determineAll hall
  obtain ⟨t', ht', -⟩ := outcome_state hf
  cases h.symm.trans ht'
  exact ⟨f n, hf n hn, (Facts.get?_ofNames hd).2 ⟨hn, rfl⟩⟩

end Resolution

end GoalPlanner
