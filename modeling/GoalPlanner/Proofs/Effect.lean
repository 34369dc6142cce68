import GoalPlanner.Effect

/-!
# Outcomes of effects

What each building block of an effect comes to from a session. A sequence goes on where its first part ends
(`outcome_bind`), unless that part fails, so it comes to a value only if both parts do (`outcome_bind_eq_ok_iff`); a
computation on a part of the world comes to what it does on its own (`outcome_zoom`, `outcome_beside`).
-/

namespace GoalPlanner.Effect

variable {σ τ α β : Type}

@[simp] theorem outcome_pure (a : α) (s : Session σ) : (pure a : Effect σ α).outcome s = (.ok a, s) := rfl

theorem outcome_bind (e : Effect σ α) (f : α → Effect σ β) (s : Session σ) :
    (e >>= f).outcome s =
      match e.outcome s with
      | (.ok a, t) => (f a).outcome t
      | (.error x, t) => (.error x, t) := by
  simp only [outcome, ExceptT.run, bind, ExceptT.bind, ExceptT.mk, StateT.bind]
  cases e s with
  | mk x t => cases x <;> rfl

theorem outcome_bind_of_ok {e : Effect σ α} {s t : Session σ} {a : α} (h : e.outcome s = (.ok a, t))
    (f : α → Effect σ β) : (e >>= f).outcome s = (f a).outcome t := by
  rw [outcome_bind, h]

theorem outcome_bind_of_error {e : Effect σ α} {s t : Session σ} {x : Failure} (h : e.outcome s = (.error x, t))
    (f : α → Effect σ β) : (e >>= f).outcome s = (.error x, t) := by
  rw [outcome_bind, h]

theorem outcome_bind_eq_ok_iff {e : Effect σ α} {f : α → Effect σ β} {s u : Session σ} {b : β} :
    (e >>= f).outcome s = (.ok b, u) ↔ ∃ a t, e.outcome s = (.ok a, t) ∧ (f a).outcome t = (.ok b, u) := by
  rw [outcome_bind]
  rcases e.outcome s with ⟨x | a, t⟩
  · simp
  · constructor
    · exact fun h => ⟨a, t, rfl, h⟩
    · rintro ⟨_, _, ⟨⟩, h⟩
      exact h

/-- What is made of the value at the end does not touch the session. -/
theorem session_bind_pure (e : Effect σ α) (g : α → β) (s : Session σ) :
    ((e >>= fun a => pure (g a)).outcome s).2 = (e.outcome s).2 := by
  rw [outcome_bind]
  rcases e.outcome s with ⟨x | a, t⟩ <;> rfl

@[simp] theorem outcome_world (s : Session σ) : (world : Effect σ σ).outcome s = (.ok s.world, s) := rfl

@[simp] theorem outcome_change (f : σ → σ) (s : Session σ) :
    (change f).outcome s = (.ok (), { s with world := f s.world }) := rfl

@[simp] theorem outcome_logAll (rs : List Log.Record) (s : Session σ) :
    (logAll rs).outcome s = (.ok (), { s with log := s.log ++ rs.toArray }) := rfl

@[simp] theorem outcome_fail (x : Failure) (s : Session σ) : (fail x : Effect σ α).outcome s = (.error x, s) := rfl

@[simp] theorem outcome_ofExcept (x : Except Failure α) (s : Session σ) :
    (ofExcept x : Effect σ α).outcome s = (x, s) := by
  cases x <;> rfl

theorem outcome_zoom (part : τ → σ) (put : σ → τ → τ) (e : Effect σ α) (s : Session τ) :
    (e.zoom part put).outcome s =
      ((e.outcome ⟨part s.world, s.log⟩).1,
        ⟨put (e.outcome ⟨part s.world, s.log⟩).2.world s.world, (e.outcome ⟨part s.world, s.log⟩).2.log⟩) := rfl

/-! ## Worlds side by side -/

/-- A computation in a world beside which something else stands. -/
def beside (e : Effect σ α) : Effect (σ × τ) α := e.zoom Prod.fst fun w v => (w, v.2)

theorem outcome_beside {e : Effect σ α} {s : Session (σ × τ)} {t : Session σ} {x : Except Failure α}
    (h : e.outcome ⟨s.world.1, s.log⟩ = (x, t)) :
    e.beside.outcome s = (x, ⟨(t.world, s.world.2), t.log⟩) := by
  rw [beside, outcome_zoom, h]

theorem beside_bind (e : Effect σ α) (f : α → Effect σ β) :
    ((e >>= f).beside : Effect (σ × τ) β) = e.beside >>= fun a => (f a).beside := by
  refine funext fun s => ?_
  show (e >>= f).beside.outcome s = (e.beside >>= fun a => (f a).beside).outcome s
  rcases h : e.outcome ⟨s.world.1, s.log⟩ with ⟨x | a, t⟩
  · rw [outcome_bind_of_error (outcome_beside h), outcome_beside (outcome_bind_of_error h f)]
  · rw [outcome_bind_of_ok (outcome_beside h), beside, outcome_zoom, outcome_bind_of_ok h]
    rfl

end GoalPlanner.Effect
