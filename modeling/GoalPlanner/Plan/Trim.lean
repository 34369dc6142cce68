import GoalPlanner.Plan

/-!
# Trimming

Dropping actions that a sequence can do without. The backward sweep keeps the actions that establish something still
needed by the goal or by a kept action (`backward`); the forward sweep keeps those that turn an unmet requirement of the
goal to its required value (`forward`). A sweep counts only if its result is shorter and still achieves the goal
(`trim`).
-/

namespace GoalPlanner

variable {κ : Type} [Cost κ]

/-- The two sweeps. -/
inductive Sweep
  | backward
  | forward
  deriving DecidableEq, Repr

namespace Sweep

/-- One action of the backward sweep, after the later ones: the actions kept and the facts still to be established. -/
def keepIfNeeded (a : Action κ) (later : List (Action κ) × Facts) : List (Action κ) × Facts :=
  let (kept, targets) := later
  let established := a.eff.entries.filter fun e => targets.get? e.1 == some e.2
  if established.isEmpty then later
  else (a :: kept, (established.foldl (fun t e => t.erase e.1) targets).merge a.pre)

/-- The actions that establish something still needed. -/
def dropIdle (g : Goal κ) (as : List (Action κ)) : List (Action κ) := (as.foldr keepIfNeeded ([], g.pre)).1

/-- Whether an action, taken in a state, turns an unmet requirement of the goal to its required value. -/
def progresses (g : Goal κ) (s : Facts) (a : Action κ) : Bool :=
  !(a.apply s).alike s && a.eff.entries.any fun e => g.pre.get? e.1 == some e.2 && s.get? e.1 != some e.2

/-- The actions that are available and make progress, each in the state left by the ones kept before. -/
def keepProgress (g : Goal κ) (s : Facts) : List (Action κ) → List (Action κ)
  | [] => []
  | a :: r =>
    if a.available s && progresses g s a then a :: keepProgress g (a.apply s) r else keepProgress g s r

/-- The result of a sweep over a sequence of actions. -/
def apply (w : Sweep) (s : Facts) (g : Goal κ) (as : List (Action κ)) : List (Action κ) :=
  match w with
  | backward => dropIdle g as
  | forward => keepProgress g s as

end Sweep

/-- What a sweep leaves of a sequence, if it leaves less and the goal is still achieved. -/
def Sweep.adopt? (w : Sweep) (s : Facts) (g : Goal κ) (as : List (Action κ)) : Option (List (Action κ)) :=
  let kept := w.apply s g as
  if kept.length < as.length && achieves s kept g then some kept else none

/-- A sequence after the given sweeps in turn, and how many actions each adopted sweep dropped. -/
def trimBy (s : Facts) (g : Goal κ) : List Sweep → List (Action κ) → List (Action κ) × List (Sweep × Nat)
  | [], as => (as, [])
  | w :: ws, as =>
    match w.adopt? s g as with
    | none => trimBy s g ws as
    | some kept =>
      let (rest, dropped) := trimBy s g ws kept
      (rest, (w, as.length - kept.length) :: dropped)

/-- A sequence after both sweeps. -/
def trim (s : Facts) (g : Goal κ) (as : List (Action κ)) : List (Action κ) := (trimBy s g [.backward, .forward] as).1

end GoalPlanner
