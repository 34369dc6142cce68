import GoalPlanner.Facts

/-!
# Snapshots

A state of the world with its conditions listed by name, so that states with the same truth values are equal
(`Snapshot.ext_get?`). Searches tell states apart by their snapshots. The snapshot of facts answers as they do
(`get?_ofFacts`), and effects act on it as on the facts (`get?_merge`).
-/

namespace GoalPlanner

/-- Truth values of conditions in increasing order of the names. -/
structure Snapshot where
  entries : List (Name × Truth)
  sorted : entries.Pairwise fun a b => a.1.before b.1 = true
  deriving DecidableEq

namespace Snapshot

open Table (lookup)

instance : Hashable Snapshot := ⟨fun s => hash s.entries⟩

instance : Inhabited Snapshot := ⟨⟨[], List.Pairwise.nil⟩⟩

/-- The truth value of a condition. -/
def get? (s : Snapshot) (n : Name) : Option Truth := lookup n s.entries

/-- A list of entries with one more in its place, or with the value of its name changed. -/
def place (n : Name) (t : Truth) : List (Name × Truth) → List (Name × Truth)
  | [] => [(n, t)]
  | (a, b) :: r => if n.before a then (n, t) :: (a, b) :: r else if a = n then (n, t) :: r else (a, b) :: place n t r

theorem mem_place {n : Name} {t : Truth} {es : List (Name × Truth)} {e : Name × Truth} (h : e ∈ place n t es) :
    e = (n, t) ∨ e ∈ es := by
  induction es with
  | nil => exact Or.inl (by simpa [place] using h)
  | cons x r ih =>
    obtain ⟨a, b⟩ := x
    simp only [place] at h
    split at h
    · simpa using h
    · split at h <;> simp only [List.mem_cons] at h ⊢
      · exact h.imp id Or.inr
      · rcases h with h | h
        · exact Or.inr (Or.inl h)
        · exact (ih h).imp id Or.inr

theorem sorted_place {n : Name} {t : Truth} {es : List (Name × Truth)}
    (h : es.Pairwise fun a b => a.1.before b.1 = true) :
    (place n t es).Pairwise fun a b => a.1.before b.1 = true := by
  induction es with
  | nil => simp [place]
  | cons x r ih =>
    obtain ⟨a, b⟩ := x
    rw [List.pairwise_cons] at h
    simp only [place]
    split
    · rename_i hb
      refine List.pairwise_cons.2 ⟨fun e he => ?_, List.pairwise_cons.2 h⟩
      rcases List.mem_cons.1 he with rfl | he
      · exact hb
      · exact Name.before_trans hb (h.1 e he)
    · rename_i hb
      split
      · rename_i ha
        subst ha
        exact List.pairwise_cons.2 h
      · rename_i ha
        refine List.pairwise_cons.2 ⟨fun e he => ?_, ih h.2⟩
        rcases mem_place he with rfl | he
        · rcases Bool.eq_false_or_eq_true (a.before n) with hn | hn
          · exact hn
          · exact absurd (Name.before_connex hn (by simpa using hb)) ha
        · exact h.1 e he

/-- No name comes twice. -/
theorem nodup_of_sorted {es : List (Name × Truth)} (h : es.Pairwise fun a b => a.1.before b.1 = true) :
    (es.map Prod.fst).Nodup := by
  rw [List.Nodup, List.pairwise_map]
  exact h.imp fun hb e => by rw [e, Name.before_irrefl] at hb; exact Bool.noConfusion hb

theorem lookup_place {n : Name} {t : Truth} {es : List (Name × Truth)}
    (h : es.Pairwise fun a b => a.1.before b.1 = true) (m : Name) :
    lookup m (place n t es) = if n = m then some t else lookup m es := by
  induction es with
  | nil => simp [place, lookup]
  | cons x r ih =>
    obtain ⟨a, b⟩ := x
    rw [List.pairwise_cons] at h
    simp only [place]
    split
    · simp [lookup]
    · split
      · rename_i ha
        subst ha
        simp only [lookup]
        split <;> rfl
      · rename_i ha
        simp only [lookup, ih h.2]
        by_cases hm : a = m
        · simp [hm, Ne.symm (hm ▸ ha)]
        · simp [hm]

/-- The snapshot with a value for one condition. -/
def set (s : Snapshot) (n : Name) (t : Truth) : Snapshot := ⟨place n t s.entries, sorted_place s.sorted⟩

theorem get?_set (s : Snapshot) (n : Name) (t : Truth) (m : Name) :
    (s.set n t).get? m = if n = m then some t else s.get? m := lookup_place s.sorted m

/-- The snapshot after several entries in turn. -/
def setAll (s : Snapshot) (es : List (Name × Truth)) : Snapshot := es.foldl (fun s e => s.set e.1 e.2) s

/-- The snapshot after effects. -/
def merge (s : Snapshot) (effects : Facts) : Snapshot := s.setAll effects.entries

/-- The snapshot of facts. -/
def ofFacts (s : Facts) : Snapshot := (default : Snapshot).merge s

/-- Whether the snapshot has each of the required values. -/
def meets (s : Snapshot) (required : Facts) : Bool := required.entries.all fun e => s.get? e.1 == some e.2

theorem meets_iff {s : Snapshot} {required : Facts} :
    s.meets required = true ↔ ∀ n t, required.get? n = some t → s.get? n = some t := by
  simp only [meets, List.all_eq_true, beq_iff_eq, Prod.forall, Table.get?_eq_some_iff (t := required)]

/-! ## Equality -/

/-- Sorted lists of entries with the same members are equal. -/
theorem eq_of_mem_iff {es fs : List (Name × Truth)} (he : es.Pairwise fun a b => a.1.before b.1 = true)
    (hf : fs.Pairwise fun a b => a.1.before b.1 = true) (h : ∀ x, x ∈ es ↔ x ∈ fs) : es = fs := by
  induction es generalizing fs with
  | nil =>
    cases fs with
    | nil => rfl
    | cons y s => exact absurd ((h y).2 (by simp)) (by simp)
  | cons x r ih =>
    cases fs with
    | nil => exact absurd ((h x).1 (by simp)) (by simp)
    | cons y s =>
      rw [List.pairwise_cons] at he hf
      have not_before {a b : Name × Truth} (k : a.1.before b.1 = true) (l : b.1.before a.1 = true) : False := by
        rw [Name.before_asymm k] at l; exact Bool.noConfusion l
      have hxy : x = y := by
        rcases List.mem_cons.1 ((h x).1 (by simp)) with e | e
        · exact e
        · rcases List.mem_cons.1 ((h y).2 (by simp)) with e' | e'
          · exact e'.symm
          · exact (not_before (hf.1 x e) (he.1 y e')).elim
      subst hxy
      have self_not {es : List (Name × Truth)} (k : ∀ a' ∈ es, x.1.before a'.1 = true) : x ∉ es := fun m => by
        have := k x m; rw [Name.before_irrefl] at this; exact Bool.noConfusion this
      rw [ih he.2 hf.2 fun z => ?_]
      constructor
      · intro hz
        rcases List.mem_cons.1 ((h z).1 (List.mem_cons_of_mem _ hz)) with e | e
        · exact absurd (e ▸ hz) (self_not he.1)
        · exact e
      · intro hz
        rcases List.mem_cons.1 ((h z).2 (List.mem_cons_of_mem _ hz)) with e | e
        · exact absurd (e ▸ hz) (self_not hf.1)
        · exact e

/-- Snapshots with the same values are equal. -/
theorem ext_get? {s t : Snapshot} (h : ∀ n, s.get? n = t.get? n) : s = t := by
  obtain ⟨es, he⟩ := s
  obtain ⟨fs, hf⟩ := t
  congr 1
  refine eq_of_mem_iff he hf fun x => ?_
  obtain ⟨n, v⟩ := x
  rw [← Table.lookup_eq_some_iff (nodup_of_sorted he), ← Table.lookup_eq_some_iff (nodup_of_sorted hf)]
  have e : lookup n es = lookup n fs := h n
  rw [e]

/-! ## Snapshots and facts -/

/-- Entries set in turn act on a snapshot as on facts that answer alike. -/
theorem get?_setAll {s : Snapshot} {f : Facts} (h : ∀ n, s.get? n = f.get? n) (es : List (Name × Truth)) (n : Name) :
    (s.setAll es).get? n = (f.setAll es).get? n := by
  induction es generalizing s f with
  | nil => exact h n
  | cons e r ih =>
    refine ih (s := s.set e.1 e.2) (f := f.set e.1 e.2) fun m => ?_
    rw [get?_set, Table.get?_set, h]

theorem get?_merge {s : Snapshot} {f : Facts} (h : ∀ n, s.get? n = f.get? n) (effects : Facts) (n : Name) :
    (s.merge effects).get? n = (f.merge effects).get? n := get?_setAll h _ n

theorem get?_ofFacts (f : Facts) (n : Name) : (ofFacts f).get? n = f.get? n := by
  rw [ofFacts, get?_merge (f := ∅) (fun _ => rfl), Table.get?_merge]
  cases f.get? n <;> rfl

theorem meets_ofFacts (f required : Facts) : (ofFacts f).meets required = f.meets required := by
  rw [Bool.eq_iff_iff, meets_iff, Facts.meets_iff]
  simp only [get?_ofFacts]

end Snapshot

end GoalPlanner
