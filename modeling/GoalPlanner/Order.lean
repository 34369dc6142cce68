/-!
# Orders by several criteria

Decided strict orders (`IsOrder`, `IsLinear`) and their combination: by one criterion, and among things equal in it by
another order (`orderBy`). The combination is an order again (`isOrder_orderBy`), and things that it does not tell
apart are equal in the first criterion and not told apart by the rest (`eq_of_orderBy`).
-/

namespace GoalPlanner

variable {α β : Type}

/-- A decided strict order. -/
structure IsOrder (lt : α → α → Bool) : Prop where
  irrefl (a : α) : lt a a = false
  trans {a b c : α} (h : lt a b = true) (k : lt b c = true) : lt a c = true

/-- A decided strict order that tells all different things apart. -/
structure IsLinear (lt : α → α → Bool) : Prop extends IsOrder lt where
  connex {a b : α} (h : lt a b = false) (k : lt b a = false) : a = b

/-- Naturals by size. -/
theorem isLinear_nat : IsLinear fun m n : Nat => decide (m < n) where
  irrefl n := by simp
  trans h k := by simp only [decide_eq_true_eq] at h k ⊢; omega
  connex h k := by simp only [decide_eq_false_iff_not] at h k; omega

/-- Rationals by size. -/
theorem isLinear_rat : IsLinear fun p q : Rat => decide (p < q) where
  irrefl _ := decide_eq_false Rat.lt_irrefl
  trans {p q r} h k := by
    simp only [decide_eq_true_eq] at h k ⊢
    rw [Rat.lt_iff_le_and_ne] at h ⊢
    have k' := Rat.le_of_lt k
    refine ⟨Rat.le_trans h.1 k', ?_⟩
    rintro rfl
    exact h.2 (Rat.le_antisymm h.1 k')
  connex h k := by
    simp only [decide_eq_false_iff_not, Rat.not_lt] at h k
    exact Rat.le_antisymm k h

/-- The order that tells nothing apart. -/
theorem isOrder_false : IsOrder fun _ _ : α => false where
  irrefl _ := rfl
  trans h _ := h

variable [DecidableEq β]

/-- Compares by a criterion, and things equal in it by another order. -/
def orderBy (key : α → β) (lt : β → β → Bool) (rest : α → α → Bool) (a b : α) : Bool :=
  lt (key a) (key b) || (key a == key b && rest a b)

variable {key : α → β} {lt : β → β → Bool} {rest : α → α → Bool}

theorem orderBy_iff {a b : α} :
    orderBy key lt rest a b = true ↔ lt (key a) (key b) = true ∨ key a = key b ∧ rest a b = true := by
  simp [orderBy]

theorem isOrder_orderBy (h : IsOrder lt) (k : IsOrder rest) : IsOrder (orderBy key lt rest) where
  irrefl a := by simp [orderBy, h.irrefl, k.irrefl]
  trans {a b c} hab hbc := by
    rw [orderBy_iff] at hab hbc ⊢
    rcases hab with hab | ⟨eab, hab⟩ <;> rcases hbc with hbc | ⟨ebc, hbc⟩
    · exact Or.inl (h.trans hab hbc)
    · exact Or.inl (ebc ▸ hab)
    · exact Or.inl (eab ▸ hbc)
    · exact Or.inr ⟨eab.trans ebc, k.trans hab hbc⟩

theorem eq_of_orderBy (h : IsLinear lt) {a b : α} (hab : orderBy key lt rest a b = false)
    (hba : orderBy key lt rest b a = false) : key a = key b ∧ rest a b = false ∧ rest b a = false := by
  simp only [orderBy, Bool.or_eq_false_iff] at hab hba
  have e := h.connex hab.1 hba.1
  simpa [e] using And.intro hab.2 hba.2

end GoalPlanner
