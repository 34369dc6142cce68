import Mathlib

/-!
# How readings end

A reading ends with a value or with a refusal. `Ends` says of both what they are like, and is put together along the
steps of a reading (`Ends.bind`, `Ends.mapM`).
-/

namespace GoalPlanner

/-- A reading ends, with a value that is accepted or with a refusal that is justified. -/
def Ends {ε α : Type} (x : Except ε α) (accepted : α → Prop) (justified : ε → Prop) : Prop :=
  (∃ a, x = .ok a ∧ accepted a) ∨ ∃ e, x = .error e ∧ justified e

namespace Ends

variable {ε α β : Type} {x : Except ε α} {P Q : α → Prop} {R : β → Prop} {J K : ε → Prop}

theorem ok {a : α} (h : P a) : Ends (.ok a) P J := .inl ⟨a, rfl, h⟩

theorem error {e : ε} (h : J e) : Ends (.error e : Except ε α) P J := .inr ⟨e, rfl, h⟩

theorem justified (h : Ends x P J) {e : ε} (he : x = .error e) : J e := by
  rcases h with ⟨a, ha, -⟩ | ⟨f, hf, hJ⟩
  · cases ha.symm.trans he
  · cases hf.symm.trans he
    exact hJ

theorem mono (h : Ends x P J) (hP : ∀ a, P a → Q a) (hJ : ∀ e, J e → K e) : Ends x Q K := by
  rcases h with ⟨a, ha, h⟩ | ⟨e, he, h⟩
  · exact .inl ⟨a, ha, hP a h⟩
  · exact .inr ⟨e, he, hJ e h⟩

/-- A reading in two steps ends if both do. -/
theorem bind {f : α → Except ε β} (h : Ends x P J) (hf : ∀ a, x = .ok a → P a → Ends (f a) R J) :
    Ends (x >>= f) R J := by
  rcases h with ⟨a, rfl, ha⟩ | ⟨e, rfl, he⟩
  · exact hf a rfl ha
  · exact error he

theorem map {f : α → β} (h : Ends x P J) (hf : ∀ a, P a → R (f a)) : Ends (x.map f) R J := by
  rcases h with ⟨a, rfl, ha⟩ | ⟨e, rfl, he⟩
  · exact ok (hf a ha)
  · exact error he

/-- Reading the members of a list in turn ends if reading each of them does. -/
theorem mapM {f : α → Except ε β} {xs : List α} (h : ∀ a ∈ xs, Ends (f a) (fun _ => P a) J) :
    Ends (xs.mapM f) (fun _ => ∀ a ∈ xs, P a) J := by
  induction xs with
  | nil => exact ok (List.forall_mem_nil P)
  | cons a as ih =>
    rw [List.forall_mem_cons] at h
    rw [List.mapM_cons]
    exact h.1.bind fun b _ hb => (ih h.2).bind fun bs _ hbs => ok (List.forall_mem_cons.2 ⟨hb, hbs⟩)

end Ends

end GoalPlanner
