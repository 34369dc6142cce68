import GoalPlanner.Document.Fields
import GoalPlanner.Proofs.Facts
import Mathlib

/-!
# What fields say

The conditions that an entry gives in both spellings are those of its explicit conditions, the last entry of a text
before all others, and then those that it lists by name (`Gives`, `gives_of_readSpec`). Scalars that are listed become
names one by one, those that are one key with an earlier one aside (`readNames_scalars`).
-/

namespace GoalPlanner.Document

/-! ## Readings in turn -/

section

variable {ε α β : Type}

theorem bind_eq_ok_iff {x : Except ε α} {f : α → Except ε β} {b : β} :
    (x >>= f) = .ok b ↔ ∃ a, x = .ok a ∧ f a = .ok b := by
  cases x <;> simp [bind, Except.bind]

theorem bind_eq_error_iff {x : Except ε α} {f : α → Except ε β} {e : ε} :
    (x >>= f) = .error e ↔ x = .error e ∨ ∃ a, x = .ok a ∧ f a = .error e := by
  cases x <;> simp [bind, Except.bind]

theorem mapM_eq_ok_iff {f : α → Except ε β} {xs : List α} {ys : List β} :
    xs.mapM f = .ok ys ↔ List.Forall₂ (fun x y => f x = .ok y) xs ys := by
  induction xs generalizing ys with
  | nil => simp [pure, Except.pure, eq_comm]
  | cons x xs ih =>
    simp only [List.mapM_cons, bind_eq_ok_iff, ih, List.forall₂_cons_left_iff, pure, Except.pure, Except.ok.injEq]
    constructor
    · rintro ⟨y, hy, zs, hzs, rfl⟩
      exact ⟨y, zs, hy, hzs, rfl⟩
    · rintro ⟨y, zs, hy, hzs, rfl⟩
      exact ⟨y, hy, zs, hzs, rfl⟩

theorem exists_of_mem_mapM {f : α → Except ε β} {xs : List α} {ys : List β} (h : xs.mapM f = .ok ys) {y : β}
    (hy : y ∈ ys) : ∃ x ∈ xs, f x = .ok y := by
  rw [mapM_eq_ok_iff] at h
  induction h with
  | nil => cases hy
  | @cons x z xs ys hx _ ih =>
    rcases List.mem_cons.1 hy with rfl | hy
    · exact ⟨x, List.mem_cons_self, hx⟩
    · obtain ⟨w, hw, hread⟩ := ih hy
      exact ⟨w, List.mem_cons_of_mem x hw, hread⟩

theorem exists_forall₂_iff {R : α → β → Prop} {xs : List α} :
    (∃ ys, List.Forall₂ R xs ys) ↔ ∀ x ∈ xs, ∃ y, R x y := by
  induction xs with
  | nil => simp
  | cons x xs ih =>
    simp only [List.forall₂_cons_left_iff, List.forall_mem_cons, ← ih]
    constructor
    · rintro ⟨-, y, ys, hy, hys, -⟩
      exact ⟨⟨y, hy⟩, ys, hys⟩
    · rintro ⟨⟨y, hy⟩, ys, hys⟩
      exact ⟨y :: ys, y, ys, hy, hys, rfl⟩

theorem exists_eq_error_of_mapM {f : α → Except ε β} {xs : List α} {e : ε} (h : xs.mapM f = .error e) :
    ∃ x ∈ xs, f x = .error e := by
  induction xs with
  | nil => cases h
  | cons x xs ih =>
    simp only [List.mapM_cons, bind_eq_error_iff, pure, Except.pure, reduceCtorEq, and_false, exists_false,
      or_false] at h
    rcases h with h | ⟨-, -, h⟩
    · exact ⟨x, List.mem_cons_self, h⟩
    · obtain ⟨y, hy, he⟩ := ih h
      exact ⟨y, List.mem_cons_of_mem x hy, he⟩

end

/-! ## Names that are listed -/

/-- Some values and one more, unless it is one key with an earlier one. -/
def keepKey (kept : List Value) (v : Value) : List Value :=
  if kept.any (Value.sameKey · v) then kept else kept ++ [v]

theorem distinctKeys_eq (vs : List Value) : distinctKeys vs = vs.foldl keepKey [] := rfl

theorem subset_keepKey (kept : List Value) (v : Value) : kept ⊆ keepKey kept v := by
  rw [keepKey]
  split
  · exact List.Subset.refl kept
  · exact List.subset_append_left kept [v]

/-- Something is kept in the place of every value. -/
theorem exists_mem_keepKey (kept : List Value) (v : Value) : ∃ w ∈ keepKey kept v, w = v ∨ w.sameKey v = true := by
  rw [keepKey]
  split
  · rename_i h
    obtain ⟨w, hw, hv⟩ := List.any_eq_true.1 h
    exact ⟨w, hw, .inr hv⟩
  · exact ⟨v, List.mem_append_right kept (List.mem_singleton_self v), .inl rfl⟩

theorem mem_of_mem_keepKey {kept : List Value} {v w : Value} (h : w ∈ keepKey kept v) : w ∈ kept ∨ w = v := by
  rw [keepKey] at h
  split at h
  · exact .inl h
  · simpa using h

theorem exists_mem_distinctKeys {v : Value} {vs : List Value} (h : v ∈ vs) :
    ∃ w ∈ distinctKeys vs, w = v ∨ w.sameKey v = true := by
  have hkept (us kept : List Value) : kept ⊆ us.foldl keepKey kept := by
    induction us generalizing kept with
    | nil => exact List.Subset.refl kept
    | cons u us ih => exact List.Subset.trans (subset_keepKey kept u) (ih _)
  rw [distinctKeys_eq]
  generalize ([] : List Value) = kept
  induction vs generalizing kept with
  | nil => cases h
  | cons u vs ih =>
    rcases List.mem_cons.1 h with rfl | h
    · -- what is kept in its place now stays
      obtain ⟨w, hw, hv⟩ := exists_mem_keepKey kept v
      exact ⟨w, hkept vs _ hw, hv⟩
    · exact ih h _

theorem mem_of_mem_distinctKeys {v : Value} {vs : List Value} (h : v ∈ distinctKeys vs) : v ∈ vs := by
  have hfold (us kept : List Value) (h : v ∈ us.foldl keepKey kept) : v ∈ kept ∨ v ∈ us := by
    induction us generalizing kept with
    | nil => exact .inl h
    | cons u us ih =>
      rcases ih _ h with h | h
      · rcases mem_of_mem_keepKey h with h | rfl
        · exact .inl h
        · exact .inr List.mem_cons_self
      · exact .inr (List.mem_cons_of_mem u h)
  exact (hfold vs [] h).resolve_left List.not_mem_nil

/-- A text, an integer or a flag. -/
def IsScalar : Value → Prop
  | .text _ | .int _ | .bool _ => True
  | _ => False

/-- The name that a scalar is. -/
def scalarName : Value → Name
  | .int n => .number n
  | .bool b => .flag b
  | v => .text v.shown

variable {v w : Value} {vs : List Value}

theorem readName_scalar (h : IsScalar v) : readName v = .ok (scalarName v) := by
  cases v <;> first | rfl | exact h.elim

theorem shown_scalarName (h : IsScalar v) : (scalarName v).shown = v.shown := by
  cases v with
  | text | int => rfl
  | bool b => cases b <;> rfl
  | _ => exact h.elim

theorem scalarName_eq_text_iff (h : IsScalar v) {s : String} : scalarName v = .text s ↔ v = .text s := by
  cases v <;> first | exact h.elim | simp [scalarName, Value.shown]

/-- Only the same text is one key with a text. -/
theorem eq_of_sameKey_text {s : String} (h : IsScalar w) (hw : w.sameKey (.text s) = true) : w = .text s := by
  cases w with
  | text t => exact congrArg Value.text (eq_of_beq hw)
  | int | bool => exact absurd hw Bool.false_ne_true
  | _ => exact h.elim

theorem listed_list (vs : List Value) : listed (.list vs) = .ok vs := by
  cases vs <;> rfl

theorem mapM_readName (h : ∀ v ∈ vs, IsScalar v) : vs.mapM readName = .ok (vs.map scalarName) := by
  rw [mapM_eq_ok_iff, List.forall₂_map_right_iff, List.forall₂_same]
  exact fun v hv => readName_scalar (h v hv)

/-- Scalars that are listed are names that hold, each key once. -/
theorem readNames_scalars (h : ∀ v ∈ vs, IsScalar v) :
    readNames (.list vs) = .ok (Facts.uniform ((distinctKeys vs).map scalarName) .yes) := by
  rw [readNames, listed_list]
  show (vs.mapM readName >>= fun _ => (distinctKeys vs).mapM readName >>= fun ns => .ok (Facts.uniform ns .yes)) = _
  rw [mapM_readName h, mapM_readName fun v hv => h v (mem_of_mem_distinctKeys hv)]
  rfl

/-- What is listed as a text is said of this text and of nothing else. -/
theorem mem_scalarNames_text (h : ∀ v ∈ vs, IsScalar v) {s : String} :
    .text s ∈ (distinctKeys vs).map scalarName ↔ .text s ∈ vs := by
  rw [List.mem_map]
  constructor
  · rintro ⟨v, hv, he⟩
    have hv := mem_of_mem_distinctKeys hv
    rwa [← (scalarName_eq_text_iff (h v hv)).1 he]
  · intro hs
    obtain ⟨w, hw, he⟩ := exists_mem_distinctKeys hs
    have hscalar := h w (mem_of_mem_distinctKeys hw)
    refine ⟨w, hw, (scalarName_eq_text_iff hscalar).2 ?_⟩
    exact he.elim id (eq_of_sameKey_text hscalar)

/-! ## Conditions with explicit values -/

/-- The entries of a mapping; other values have none. -/
def entries : Value → List (Value × Value)
  | .mapping es => es
  | _ => []

/-- The value of the last entry whose key has a text. -/
def lastStated? (s : String) (es : List (Value × Value)) : Option Value :=
  (es.reverse.find? fun e => e.1.shown == s).map Prod.snd

/-- An entry as a condition. -/
def Reads (e : Value × Value) (x : Name × Truth) : Prop := x.1 = .text e.1.shown ∧ readTruth e.2 = .ok x.2

variable {es : List (Value × Value)} {xs : List (Name × Truth)}

theorem readEntries_eq_ok_iff : readEntries es = .ok xs ↔ List.Forall₂ Reads es xs := by
  rw [readEntries, mapM_eq_ok_iff]
  refine iff_of_eq (congrArg (List.Forall₂ · es xs) (funext₂ fun e x => propext ?_))
  simp only [bind_eq_ok_iff, pure, Except.pure, Except.ok.injEq, Reads]
  constructor
  · rintro ⟨t, ht, rfl⟩
    exact ⟨rfl, ht⟩
  · rintro ⟨hn, ht⟩
    exact ⟨x.2, ht, Prod.ext hn.symm rfl⟩

theorem entries_of_not_isTrue (h : v.isTrue = false) : entries v = [] := by
  cases v with
  | mapping es => simpa [Value.isTrue, entries] using h
  | _ => rfl

/-- Explicit conditions are read from the entries of a mapping; what is no mapping gives none, and only if it counts as
false. -/
theorem readConditions_eq_ok_iff : readConditions v = .ok xs ↔
    (v.isTrue = true → v = .mapping (entries v)) ∧ List.Forall₂ Reads (entries v) xs := by
  unfold readConditions
  cases h : v.isTrue with
  | false => simp [entries_of_not_isTrue h, eq_comm]
  | true =>
    cases v with
    | mapping es => simp [entries, readEntries_eq_ok_iff]
    | _ => simp [entries]

theorem lookup_of_reads (h : List.Forall₂ Reads es xs) {n : Name} (hn : ∀ s, n ≠ .text s) :
    Table.lookup n xs = none := by
  induction h with
  | nil => rfl
  | cons hex _ ih =>
    rw [Table.lookup, if_neg (hex.1 ▸ (hn _).symm), ih]

/-- The condition of a text is read from the first entry of this text. -/
theorem map_lookup_text (h : List.Forall₂ Reads es xs) (s : String) :
    (Table.lookup (.text s) xs).map Except.ok = (es.find? fun e => e.1.shown == s).map fun e => readTruth e.2 := by
  induction h with
  | nil => rfl
  | @cons e x es xs hex _ ih =>
    by_cases hs : e.1.shown = s
    · rw [List.find?_cons_of_pos (by simpa using hs), Table.lookup, if_pos (by rw [hex.1, hs]), Option.map_some,
        Option.map_some, hex.2]
    · rw [List.find?_cons_of_neg (by simpa using hs), Table.lookup, if_neg (by rwa [hex.1, Name.text.injEq]), ih]

/-! ## Both spellings -/

/-- What a value lists that is nothing or a list of texts. -/
inductive ListsTexts : Value → List String → Prop
  | null : ListsTexts .null []
  | list (ss : List String) : ListsTexts (.list (ss.map .text)) ss

/-- Facts that are just what the two spellings say: of the text of a key what the last entry of this text states, of
other texts that are listed that they hold, and nothing of anything else. -/
structure Gives (explicit : Value) (listed : List String) (f : Facts) : Prop where
  stated : ∀ s v, lastStated? s (entries explicit) = some v → ∃ t, readTruth v = .ok t ∧ f.get? (.text s) = some t
  named : ∀ s, lastStated? s (entries explicit) = none → f.get? (.text s) = if s ∈ listed then some .yes else none
  texts : ∀ n, (∀ s, n ≠ .text s) → f.get? n = none

theorem get?_readNames {ss : List String} {f : Facts} (h : ListsTexts v ss) (hf : readNames v = .ok f) :
    (∀ s, f.get? (.text s) = if s ∈ ss then some .yes else none) ∧ ∀ n, (∀ s, n ≠ .text s) → f.get? n = none := by
  cases h with
  | null =>
    cases hf
    exact ⟨fun s => rfl, fun n _ => rfl⟩
  | list =>
    have hscalar : ∀ v ∈ ss.map .text, IsScalar v := List.forall_mem_map.2 fun s _ => trivial
    rw [readNames_scalars hscalar, Except.ok.injEq] at hf
    refine ⟨fun s => ?_, fun n hn => ?_⟩
    · simp [← hf, Facts.get?_uniform, mem_scalarNames_text hscalar]
    · rw [← hf, Facts.get?_uniform, if_neg]
      intro hmem
      obtain ⟨v, hv, rfl⟩ := List.mem_map.1 hmem
      obtain ⟨s, -, rfl⟩ := List.mem_map.1 (mem_of_mem_distinctKeys hv)
      exact hn s rfl

/-- What an entry gives in both spellings. -/
theorem gives_of_readSpec {explicit names : Value} {ss : List String} {f : Facts} (hnames : ListsTexts names ss)
    (h : readSpec explicit names = .ok f) : Gives explicit ss f := by
  obtain ⟨named, hnamed, xs, hxs, hf⟩ : ∃ named, readNames names = .ok named ∧
      ∃ xs, readConditions explicit = .ok xs ∧ combine named xs = f := by
    simpa only [readSpec, bind_eq_ok_iff, pure, Except.pure, Except.ok.injEq] using h
  obtain ⟨htext, hother⟩ := get?_readNames hnames hnamed
  -- the last entry of a text is the first one in the list turned round
  have hreads : List.Forall₂ Reads (entries explicit).reverse xs.reverse :=
    List.rel_reverse (readConditions_eq_ok_iff.1 hxs).2
  have hlookup (s : String) : (Table.lookup (.text s) xs.reverse).map Except.ok =
      (lastStated? s (entries explicit)).map readTruth := by
    rw [map_lookup_text hreads, lastStated?, Option.map_map]
    rfl
  refine ⟨fun s v hv => ?_, fun s hs => ?_, fun n hn => ?_⟩
  · obtain ⟨t, ht, htruth⟩ := Option.map_eq_some_iff.1 ((hlookup s).trans (congrArg _ hv))
    exact ⟨t, htruth.symm, by rw [← hf, get?_combine, ht, Option.some_or]⟩
  · have hnone := Option.map_eq_none_iff.1 ((hlookup s).trans (congrArg _ hs))
    rw [← hf, get?_combine, hnone, Option.none_or, htext]
  · rw [← hf, get?_combine, lookup_of_reads hreads hn, hother n hn, Option.or_none]

end GoalPlanner.Document
