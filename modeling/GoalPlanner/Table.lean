/-!
# Tables

Finite maps that remember the order in which their keys came in. A key holds its place when it is set again
(`keys_set`), and a table is read through `get?` (`get?_set`, `get?_erase`, `get?_setAll`). Two tables that answer alike
are `alike`, whatever their orders.
-/

namespace GoalPlanner

/-- A finite map with its entries in the order of their first insertion. -/
structure Table (α β : Type) where
  entries : List (α × β)
  distinct : (entries.map Prod.fst).Nodup

namespace Table

variable {α β : Type}

instance : EmptyCollection (Table α β) := ⟨⟨[], List.nodup_nil⟩⟩

instance : Inhabited (Table α β) := ⟨∅⟩

/-- The keys, in order. -/
def keys (t : Table α β) : List α := t.entries.map Prod.fst

/-- The number of entries. -/
def size (t : Table α β) : Nat := t.entries.length

@[ext] theorem ext {s t : Table α β} (h : s.entries = t.entries) : s = t := by
  cases s; cases t; cases h; rfl

instance [DecidableEq α] [DecidableEq β] : DecidableEq (Table α β) := fun s t =>
  decidable_of_iff (s.entries = t.entries) ⟨ext, fun h => h ▸ rfl⟩

@[simp] theorem entries_empty : (∅ : Table α β).entries = [] := rfl

@[simp] theorem keys_empty : (∅ : Table α β).keys = [] := rfl

theorem keys_nodup (t : Table α β) : t.keys.Nodup := t.distinct

variable [DecidableEq α]

/-! ## Reading -/

/-- The value of a key in a list of entries. -/
def lookup (k : α) : List (α × β) → Option β
  | [] => none
  | (a, b) :: r => if a = k then some b else lookup k r

/-- The value of a key. -/
def get? (t : Table α β) (k : α) : Option β := lookup k t.entries

/-- Whether a key has a value. -/
def contains (t : Table α β) (k : α) : Bool := (t.get? k).isSome

theorem lookup_eq_none_iff {k : α} {es : List (α × β)} : lookup k es = none ↔ k ∉ es.map Prod.fst := by
  induction es with
  | nil => simp [lookup]
  | cons e r ih =>
    obtain ⟨a, b⟩ := e
    by_cases h : a = k
    · simp [lookup, h]
    · simp [lookup, h, ih, Ne.symm h]

theorem lookup_eq_some_iff {k : α} {v : β} {es : List (α × β)} (h : (es.map Prod.fst).Nodup) :
    lookup k es = some v ↔ (k, v) ∈ es := by
  induction es with
  | nil => simp [lookup]
  | cons e r ih =>
    obtain ⟨a, b⟩ := e
    rw [List.map_cons, List.nodup_cons] at h
    by_cases hk : a = k
    · subst hk
      have : (a, v) ∉ r := fun m => h.1 (List.mem_map.2 ⟨_, m, rfl⟩)
      simp [lookup, this, eq_comm]
    · simp [lookup, hk, ih h.2, Ne.symm hk]

@[simp] theorem get?_empty (k : α) : (∅ : Table α β).get? k = none := rfl

theorem get?_eq_none_iff {t : Table α β} {k : α} : t.get? k = none ↔ k ∉ t.keys := lookup_eq_none_iff

theorem get?_eq_some_iff {t : Table α β} {k : α} {v : β} : t.get? k = some v ↔ (k, v) ∈ t.entries :=
  lookup_eq_some_iff t.distinct

theorem mem_keys_iff {t : Table α β} {k : α} : k ∈ t.keys ↔ (t.get? k).isSome := by
  have h := get?_eq_none_iff (t := t) (k := k)
  cases hk : t.get? k <;> simp [hk] at h ⊢ <;> exact h

/-! ## Writing -/

/-- A list of entries with one more, or with the value of its key changed in place. -/
def put (k : α) (v : β) : List (α × β) → List (α × β)
  | [] => [(k, v)]
  | (a, b) :: r => if a = k then (a, v) :: r else (a, b) :: put k v r

theorem map_fst_put (k : α) (v : β) (es : List (α × β)) :
    (put k v es).map Prod.fst = if k ∈ es.map Prod.fst then es.map Prod.fst else es.map Prod.fst ++ [k] := by
  induction es with
  | nil => simp [put]
  | cons e r ih =>
    obtain ⟨a, b⟩ := e
    by_cases h : a = k
    · simp [put, h]
    · simp only [put, if_neg h, List.map_cons, ih, List.mem_cons, Ne.symm h, false_or]
      split <;> simp

theorem nodup_put {k : α} {v : β} {es : List (α × β)} (h : (es.map Prod.fst).Nodup) :
    ((put k v es).map Prod.fst).Nodup := by
  rw [map_fst_put]
  split
  · exact h
  · rename_i hk
    rw [List.nodup_append]
    exact ⟨h, by simp, fun a ha b hb e => hk (by simp at hb; rwa [← hb, ← e])⟩

theorem lookup_put (k : α) (v : β) (es : List (α × β)) (j : α) :
    lookup j (put k v es) = if k = j then some v else lookup j es := by
  induction es with
  | nil => simp [put, lookup]
  | cons e r ih =>
    obtain ⟨a, b⟩ := e
    by_cases h : a = k
    · subst h; simp only [put, if_pos, lookup]; split <;> rfl
    · simp only [put, if_neg h, lookup, ih]
      by_cases hj : a = j
      · simp [hj, Ne.symm (hj ▸ h)]
      · simp [hj]

/-- The table with a value for one key; a new key comes last. -/
def set (t : Table α β) (k : α) (v : β) : Table α β := ⟨put k v t.entries, nodup_put t.distinct⟩

/-- The table with several entries set in turn. -/
def setAll (t : Table α β) (es : List (α × β)) : Table α β := es.foldl (fun t e => t.set e.1 e.2) t

/-- The table of a list of entries; a later value of a key replaces an earlier one. -/
def ofList (es : List (α × β)) : Table α β := (∅ : Table α β).setAll es

/-- The table with every entry of another set in turn. -/
def merge (t u : Table α β) : Table α β := t.setAll u.entries

/-- The table without one key. -/
def erase (t : Table α β) (k : α) : Table α β :=
  ⟨t.entries.filter fun e => decide (e.1 ≠ k), t.distinct.sublist (List.filter_sublist.map _)⟩

theorem get?_set (t : Table α β) (k : α) (v : β) (j : α) :
    (t.set k v).get? j = if k = j then some v else t.get? j := lookup_put k v t.entries j

theorem keys_set (t : Table α β) (k : α) (v : β) :
    (t.set k v).keys = if k ∈ t.keys then t.keys else t.keys ++ [k] := map_fst_put k v t.entries

theorem get?_erase (t : Table α β) (k j : α) : (t.erase k).get? j = if k = j then none else t.get? j := by
  show lookup j (t.entries.filter fun e => decide (e.1 ≠ k)) = if k = j then none else lookup j t.entries
  induction t.entries with
  | nil => simp [lookup]
  | cons e r ih =>
    obtain ⟨a, b⟩ := e
    by_cases ha : a = k
    · subst ha
      simp only [List.filter_cons, ne_eq, not_true, decide_false, Bool.false_eq_true, if_false, ih, lookup]
      split <;> simp_all
    · simp only [List.filter_cons, ne_eq, ha, not_false_iff, decide_true, if_true, lookup, ih]
      by_cases hj : a = j
      · simp [hj, Ne.symm (hj ▸ ha)]
      · simp [hj]

/-- After setting several entries, the last one of a key counts. -/
theorem get?_setAll (t : Table α β) (es : List (α × β)) (k : α) :
    (t.setAll es).get? k = (lookup k es.reverse).or (t.get? k) := by
  induction es generalizing t with
  | nil => simp [setAll, lookup]
  | cons e r ih =>
    obtain ⟨a, b⟩ := e
    have append (xs : List (α × β)) : lookup k (xs ++ [(a, b)]) = (lookup k xs).or (lookup k [(a, b)]) := by
      induction xs with
      | nil => simp [lookup]
      | cons x xs ihx => obtain ⟨c, d⟩ := x; by_cases h : c = k <;> simp [lookup, h, ihx]
    show ((t.set a b).setAll r).get? k = _
    rw [ih, get?_set, List.reverse_cons, append]
    by_cases h : a = k <;> cases lookup k r.reverse <;> simp [lookup, h]

theorem get?_merge (t u : Table α β) (k : α) : (t.merge u).get? k = (u.get? k).or (t.get? k) := by
  rw [merge, get?_setAll]
  congr 1
  have h : (u.entries.reverse.map Prod.fst).Nodup := by
    rw [List.map_reverse]
    exact (List.reverse_perm _).nodup_iff.2 u.distinct
  apply Option.ext
  intro v
  rw [lookup_eq_some_iff h, List.mem_reverse]
  exact get?_eq_some_iff.symm

/-! ## Tables that answer alike -/

variable [DecidableEq β]

/-- Whether two tables have the same keys with the same values. -/
def alike (s t : Table α β) : Bool :=
  s.size == t.size && s.entries.all fun e => t.get? e.1 == some e.2

end Table

end GoalPlanner
