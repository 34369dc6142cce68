import GoalPlanner.Query
import Mathlib.Data.List.TakeWhile

/-!
# What names ask for

The colon is looked for first: a name with a colon asks for a binding whatever else it looks like
(`Query.exists_ofName_eq_ofBinding`), by what stands before its first colon and after it (`Query.ofName_append`). Only
without a colon does the name of the condition that an action has run ask for just that (`Query.ofName_hasRun`).
-/

namespace GoalPlanner.Query

variable {κ : Type} {name key var : String}

/-! ## Bindings -/

theorem splitAtColon?_eq_none (h : ':' ∉ key.toList) : splitAtColon? key = none := by
  have hdrop : key.toList.dropWhile (· != ':') = [] := by
    rw [List.dropWhile_eq_nil_iff]
    intro c hc
    simpa using fun he : c = ':' => h (he ▸ hc)
  rw [splitAtColon?]
  simp only [hdrop]

theorem exists_ofName_eq_ofBinding (conditions : List (Condition κ)) (h : ':' ∈ key.toList) :
    ∃ var kind, ofName conditions key = ofBinding var kind := by
  have hdrop : key.toList.dropWhile (· != ':') ≠ [] := by
    rw [Ne, List.dropWhile_eq_nil_iff]
    intro hall
    simpa using hall ':' h
  obtain ⟨c, after, hafter⟩ := List.exists_cons_of_ne_nil hdrop
  refine ⟨String.ofList (key.toList.takeWhile (· != ':')), String.ofList after, ?_⟩
  rw [ofName, splitAtColon?]
  simp only [hafter]

theorem splitAtColon?_append (kind : String) (h : ':' ∉ var.toList) :
    splitAtColon? (var ++ ":" ++ kind) = some (var, kind) := by
  have htext : (var ++ ":" ++ kind).toList = var.toList ++ ':' :: kind.toList := by
    simp [String.toList_append]
  have hplain : ∀ c ∈ var.toList, (c != ':') = true := by
    intro c hc
    simpa using fun he : c = ':' => h (he ▸ hc)
  rw [splitAtColon?, htext]
  simp only [List.takeWhile_append_of_pos hplain, List.dropWhile_append_of_pos hplain]
  simp

theorem ofName_append (conditions : List (Condition κ)) (kind : String) (h : ':' ∉ var.toList) :
    ofName conditions (var ++ ":" ++ kind) = ofBinding var kind := by
  rw [ofName, splitAtColon?_append kind h]

/-! ## Actions that have run -/

theorem ranAction?_eq_none (h : (GoalPlanner.hasRun "").toList.isPrefixOf key.toList = false) :
    ranAction? key = none := by
  simp [ranAction?, h]

theorem ranAction?_hasRun (name : String) : ranAction? (GoalPlanner.hasRun name) = some name := by
  have hname : (GoalPlanner.hasRun name).toList = (GoalPlanner.hasRun "").toList ++ name.toList := by
    simp [GoalPlanner.hasRun]
  simp [ranAction?, hname]

theorem colon_mem_hasRun_iff : ':' ∈ (GoalPlanner.hasRun name).toList ↔ ':' ∈ name.toList := by
  rw [GoalPlanner.hasRun, String.toList_append, List.mem_append]
  exact or_iff_right (by decide)

theorem ofName_hasRun (conditions : List (Condition κ)) (h : ':' ∉ name.toList) :
    ofName conditions (GoalPlanner.hasRun name) = hasRun name := by
  rw [ofName, splitAtColon?_eq_none (mt colon_mem_hasRun_iff.1 h)]
  simp only [ranAction?_hasRun]

/-! ## Registered conditions -/

/-- A name asks only for conditions that are registered. -/
theorem mem_of_ofName {conditions : List (Condition κ)} {c : Condition κ} (h : ofName conditions name = named c) :
    c ∈ conditions := by
  unfold ofName at h
  split at h
  · unfold ofBinding at h
    split at h
    · cases h
    · split at h <;> cases h
  · split at h
    · cases h
    · split at h
      · rename_i hfind
        cases h
        exact List.mem_of_find?_eq_some hfind
      · cases h

end GoalPlanner.Query
