import GoalPlanner.Kind

/-!
# Registry of kinds

The names that a kind answers to: the simple and qualified names of its lineage and the capabilities registered for any
kind of it, those of the root aside (`namesOf`). A registry keeps the names it has once found (`Registry.lookup`); what
it keeps is always what would be found anew, because a registration forgets what it may change (`Registry.register`).
-/

namespace GoalPlanner

/-- The capabilities registered for a kind by itself, oldest first. -/
def capabilitiesOf (capabilities : List (KindLabel × String)) (l : KindLabel) : List String :=
  (capabilities.filter fun c => c.1 == l).map Prod.snd

/-- The names that a kind answers to when these capabilities are registered. -/
def namesOf (capabilities : List (KindLabel × String)) (k : Kind) : List String :=
  (k.lineage.filter (· != Kind.root.label)).flatMap fun l => l.name :: l.qualified :: capabilitiesOf capabilities l

/-- Registered capabilities, and the names of kinds that were looked up. -/
structure Registry where
  capabilities : List (KindLabel × String)
  kept : List (Kind × List String)
  current : ∀ e ∈ kept, e.2 = namesOf capabilities e.1

namespace Registry

/-- The registry in which nothing is registered. -/
def empty : Registry := ⟨[], [], by simp⟩

instance : Inhabited Registry := ⟨empty⟩

theorem namesOf_register {capabilities : List (KindLabel × String)} {k j : Kind} (names : List String)
    (h : k.isBelow j = false) :
    namesOf (capabilities ++ names.map fun n => (j.label, n)) k = namesOf capabilities k := by
  have hj : ∀ l ∈ k.lineage, j.label ≠ l := by
    intro l hl e
    subst e
    simp [Kind.isBelow, hl] at h
  unfold namesOf
  rw [List.flatMap_def, List.flatMap_def]
  congr 1
  refine List.map_congr_left fun l hl => ?_
  have : (names.map fun n => (j.label, n)).filter (fun c => c.1 == l) = [] := by
    simp [hj l (List.mem_filter.1 hl).1]
  simp [capabilitiesOf, List.filter_append, this]

/-- The registry with further capabilities of a kind. The names of the kinds at or below it are forgotten. -/
def register (r : Registry) (j : Kind) (names : List String) : Registry where
  capabilities := r.capabilities ++ names.map fun n => (j.label, n)
  kept := r.kept.filter fun e => !e.1.isBelow j
  current e he := by
    rw [List.mem_filter] at he
    rw [r.current e he.1, namesOf_register names (by simpa using he.2)]

/-- The names of a kind that are kept. -/
def kept? (r : Registry) (k : Kind) : Option (List String) := (r.kept.find? fun e => e.1 == k).map Prod.snd

/-- The names that a kind answers to, which are kept from then on. -/
def lookup (r : Registry) (k : Kind) : List String × Registry :=
  match r.kept? k with
  | some names => (names, r)
  | none =>
    (namesOf r.capabilities k,
      ⟨r.capabilities, (k, namesOf r.capabilities k) :: r.kept, by
        intro e he
        rcases List.mem_cons.1 he with rfl | he
        · rfl
        · exact r.current e he⟩)

/-- Whether a kind answers to a name. -/
def answers (r : Registry) (k : Kind) (name : String) : Bool × Registry :=
  let (names, r) := r.lookup k
  (names.contains name, r)

theorem lookup_fst (r : Registry) (k : Kind) : (r.lookup k).1 = namesOf r.capabilities k := by
  unfold lookup
  split
  · rename_i names h
    obtain ⟨e, he, rfl⟩ := Option.map_eq_some_iff.1 h
    have hk : e.1 = k := by simpa using List.find?_some he
    rw [r.current e (List.mem_of_find?_eq_some he), hk]
  · rfl

@[simp] theorem capabilities_lookup (r : Registry) (k : Kind) : (r.lookup k).2.capabilities = r.capabilities := by
  unfold lookup
  split <;> rfl

end Registry

end GoalPlanner
