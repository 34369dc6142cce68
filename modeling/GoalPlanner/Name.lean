import GoalPlanner.Decimal.Text
import GoalPlanner.Order

/-!
# Condition names

A condition is named by a text. Documents may also list other scalars as names (`Name.number`, …); these are names of
their own, different from every text, and several of them may stand for one condition (`Name.canonical`). Names are
linearly ordered (`before_irrefl`, `before_trans`, `before_connex`): numbers by value, and texts by code point after all
others.
-/

namespace GoalPlanner

/-- The name of a condition. -/
inductive Name
  | text (s : String)
  | number (n : Int)
  | flag (b : Bool)
  /-- A number with a point, by the bits of its float. -/
  | decimal (bits : UInt64)
  | null
  deriving DecidableEq, Repr, Hashable, Inhabited

namespace Name

instance : Coe String Name := ⟨text⟩

/-- The name as messages show it. -/
def shown : Name → String
  | text s => s
  | number n => toString n
  | flag true => "True"
  | flag false => "False"
  | decimal bits => Decimal.floatText (Float.ofBits bits)
  | null => "None"

instance : ToString Name := ⟨shown⟩

/-! ## Identity -/

/-- The name by which a condition is recognised, however it is written: truth values and whole numbers with a point
count as integers. -/
def canonical : Name → Name
  | flag b => number b.toNat
  | decimal bits =>
    match (Decimal.Binary.ofBits? bits.toNat).bind Decimal.Binary.integer? with
    | some n => number n
    | none => decimal bits
  | n => n

/-- The place of a name's kind among the kinds of scalars: nothing, then numbers from minus infinity to infinity, then
what is no number. -/
def rank : Name → Nat
  | null => 0
  | decimal bits =>
    if (Decimal.Binary.ofBits? bits.toNat).isSome then 2
    else if (Float.ofBits bits).isNaN then 4 else if Float.ofBits bits < 0 then 1 else 3
  | _ => 2

/-- The number in a name. -/
def value : Name → Rat
  | flag b => b.toNat
  | number n => n
  | decimal bits => ((Decimal.Binary.ofBits? bits.toNat).map Decimal.Binary.value).getD 0
  | _ => 0

/-- The way in which a number is written, as a number. -/
def form : Name → Nat
  | flag _ => 1
  | number _ => 2
  | decimal bits => 3 + bits.toNat
  | _ => 0

/-- Compares names that are no texts: by kind, by number, by the way it is written. -/
def scalarBefore : Name → Name → Bool :=
  orderBy rank (fun m n => decide (m < n)) <| orderBy value (fun p q => decide (p < q)) <|
    orderBy form (fun m n => decide (m < n)) fun _ _ => false

/-- Whether a name comes before another; texts come after all others. -/
def before : Name → Name → Bool
  | text s, text t => decide (s < t)
  | text _, _ => false
  | _, text _ => true
  | a, b => scalarBefore a b

theorem isOrder_scalarBefore : IsOrder scalarBefore :=
  isOrder_orderBy isLinear_nat.toIsOrder <| isOrder_orderBy isLinear_rat.toIsOrder <|
    isOrder_orderBy isLinear_nat.toIsOrder isOrder_false

theorem eq_of_value_of_form {a b : Name} (ha : ∀ s, a ≠ text s) (hb : ∀ s, b ≠ text s) (hv : a.value = b.value)
    (hf : a.form = b.form) : a = b := by
  match a, b with
  | text s, _ => exact absurd rfl (ha s)
  | _, text s => exact absurd rfl (hb s)
  | null, null => rfl
  | flag false, flag false | flag true, flag true => rfl
  | flag false, flag true | flag true, flag false => exact absurd hv (by decide)
  | number m, number n => exact congrArg number (Rat.intCast_inj.1 hv)
  | decimal x, decimal y =>
    simp only [form] at hf
    exact congrArg decimal (UInt64.toNat_inj.1 (by omega))
  | null, flag _ | null, number _ | null, decimal _ | flag _, null | flag _, number _ | flag _, decimal _
  | number _, null | number _, flag _ | number _, decimal _ | decimal _, null | decimal _, flag _
  | decimal _, number _ => simp only [form] at hf; omega

theorem scalarBefore_connex {a b : Name} (ha : ∀ s, a ≠ text s) (hb : ∀ s, b ≠ text s)
    (h : scalarBefore a b = false) (k : scalarBefore b a = false) : a = b := by
  obtain ⟨-, h, k⟩ := eq_of_orderBy isLinear_nat h k
  obtain ⟨hv, h, k⟩ := eq_of_orderBy isLinear_rat h k
  obtain ⟨hf, -, -⟩ := eq_of_orderBy isLinear_nat h k
  exact eq_of_value_of_form ha hb hv hf

theorem before_irrefl (a : Name) : a.before a = false := by
  cases a <;> simp [before, isOrder_scalarBefore.irrefl]

theorem before_trans {a b c : Name} (h : a.before b = true) (k : b.before c = true) : a.before c = true := by
  cases a <;> cases b <;> cases c <;> simp only [before, decide_eq_true_eq, Bool.false_eq_true] at h k ⊢
  all_goals first | exact isOrder_scalarBefore.trans h k | exact String.lt_trans h k

theorem before_connex {a b : Name} (h : a.before b = false) (k : b.before a = false) : a = b := by
  cases a <;> cases b <;> simp only [before, decide_eq_false_iff_not, Bool.true_eq_false] at h k
  all_goals first
    | exact scalarBefore_connex (by simp) (by simp) h k
    | exact congrArg text (String.le_antisymm (String.not_lt.1 k) (String.not_lt.1 h))

theorem before_asymm {a b : Name} (h : a.before b = true) : b.before a = false := by
  rw [← Bool.not_eq_true]
  intro k
  have := before_trans h k
  rw [before_irrefl] at this
  exact Bool.noConfusion this

/-! ## Sorting -/

/-- Names in increasing order. -/
def sort (ns : List Name) : List Name := ns.mergeSort fun a b => !b.before a

/-- Whether names of these kinds can be listed in order: numbers and flags with each other, texts with texts. -/
def comparable (a b : Name) : Bool :=
  match a, b with
  | text _, text _ => true
  | text _, _ | _, text _ | null, _ | _, null => false
  | _, _ => true

/-- Whether a list of distinct names can be put in order. -/
def sortable : List Name → Bool
  | [] => true
  | a :: r => r.all (comparable a) && sortable r

end Name

end GoalPlanner
