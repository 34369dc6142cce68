import GoalPlanner.Facts

/-!
# Facts about some conditions

A table of different keys has the given entries (`Table.entries_ofList`); facts about a list of different names are set
at one of them by changing what is said of it (`Facts.set_ofNames`). Sorting names keeps them (`Name.mem_sort`) and puts
different ones in strict order (`Name.sorted_sort`). So the conditions of a state that are not known are listed by name,
each once (`Facts.mem_unknowns`, `Facts.sorted_unknowns`).
-/

namespace GoalPlanner

theorem nodup_eraseDups {α : Type} [BEq α] [LawfulBEq α] : (xs : List α) → xs.eraseDups.Nodup
  | [] => List.nodup_nil
  | x :: xs => by
    rw [List.eraseDups_cons, List.nodup_cons]
    refine ⟨?_, nodup_eraseDups _⟩
    rw [List.mem_eraseDups, List.mem_filter]
    simp
termination_by xs => xs.length
decreasing_by exact Nat.lt_succ_of_le (List.length_filter_le ..)

namespace Table

variable {α β : Type} [DecidableEq α]

theorem put_eq_append {k : α} (v : β) {es : List (α × β)} (h : k ∉ es.map Prod.fst) : put k v es = es ++ [(k, v)] := by
  induction es with
  | nil => rfl
  | cons e es ih =>
    rw [List.map_cons, List.mem_cons, not_or] at h
    rw [put, if_neg (Ne.symm h.1), ih h.2, List.cons_append]

theorem entries_setAll {t : Table α β} {es : List (α × β)} (h : ((t.entries ++ es).map Prod.fst).Nodup) :
    (t.setAll es).entries = t.entries ++ es := by
  induction es generalizing t with
  | nil => simp [setAll]
  | cons e es ih =>
    have hput : (t.set e.1 e.2).entries = t.entries ++ [e] := by
      refine put_eq_append _ fun he => ?_
      rw [List.map_append, List.nodup_append] at h
      exact h.2.2 _ he _ (by simp) rfl
    show ((t.set e.1 e.2).setAll es).entries = t.entries ++ e :: es
    rw [ih (by rwa [hput, List.append_assoc]), hput, List.append_assoc]
    rfl

/-- The table of a list of entries for different keys. -/
theorem entries_ofList {es : List (α × β)} (h : (es.map Prod.fst).Nodup) : (ofList es).entries = es :=
  entries_setAll (t := ∅) h

theorem put_map {ns : List α} {n : α} (hd : ns.Nodup) (hn : n ∈ ns) (f : α → β) (v : β) :
    put n v (ns.map fun m => (m, f m)) = ns.map fun m => (m, if m = n then v else f m) := by
  induction ns with
  | nil => cases hn
  | cons m ns ih =>
    rw [List.nodup_cons] at hd
    simp only [List.map_cons, put]
    by_cases hm : m = n
    · subst hm
      have hrest : ∀ k ∈ ns, k ≠ m := fun k hk he => hd.1 (he ▸ hk)
      simp +contextual [hrest]
    · rw [if_neg hm, if_neg hm, ih hd.2 ((List.mem_cons.1 hn).resolve_left (Ne.symm hm))]

theorem put_eq_self {k : α} {v : β} {es : List (α × β)} (h : lookup k es = some v) : put k v es = es := by
  induction es with
  | nil => cases h
  | cons e es ih =>
    rw [lookup] at h
    rw [put]
    split
    · rename_i he
      rw [if_pos he, Option.some.injEq] at h
      rw [← h]
    · rename_i he
      rw [if_neg he] at h
      rw [ih h]

/-- Setting a key to the value that it has changes nothing. -/
theorem set_eq_self {t : Table α β} {k : α} {v : β} (h : t.get? k = some v) : t.set k v = t := Table.ext (put_eq_self h)

end Table

theorem Name.mem_sort {ns : List Name} {n : Name} : n ∈ Name.sort ns ↔ n ∈ ns := List.mem_mergeSort

theorem Name.nodup_sort {ns : List Name} (h : ns.Nodup) : (Name.sort ns).Nodup :=
  (List.mergeSort_perm ns _).nodup_iff.2 h

/-- Different names are sorted strictly. -/
theorem Name.sorted_sort {ns : List Name} (h : ns.Nodup) : (Name.sort ns).Pairwise fun a b => a.before b = true := by
  have le : (Name.sort ns).Pairwise fun a b => (!b.before a) = true := by
    refine List.pairwise_mergeSort (fun a b c hab hbc => ?_) (fun a b => ?_) ns
    · simp only [Bool.not_eq_true'] at hab hbc ⊢
      rw [← Bool.not_eq_true]
      intro hca
      cases hba : a.before b with
      | false => rw [← Name.before_connex hab hba, hbc] at hca; cases hca
      | true => rw [Name.before_trans hca hba] at hbc; cases hbc
    · cases hab : b.before a with
      | false => rfl
      | true => simp [Name.before_asymm hab]
  have ne : (Name.sort ns).Nodup := Name.nodup_sort h
  refine (List.pairwise_and_iff.2 ⟨le, ne⟩).imp fun {a b} hab => ?_
  cases hb : a.before b with
  | true => rfl
  | false => exact absurd (Name.before_connex hb (by simpa using hab.1)) hab.2

namespace Facts

/-! ## Facts about a list of names -/

/-- What is said of each of some names. -/
def ofNames (ns : List Name) (f : Name → Truth) : Facts := Table.ofList (ns.map fun n => (n, f n))

section Named

variable {ns : List Name} {n : Name} {v : Truth}

theorem entries_ofNames (hd : ns.Nodup) (f : Name → Truth) : (ofNames ns f).entries = ns.map fun n => (n, f n) :=
  Table.entries_ofList (by simpa [Function.comp_def] using hd)

theorem get?_ofNames (hd : ns.Nodup) {f : Name → Truth} : (ofNames ns f).get? n = some v ↔ n ∈ ns ∧ f n = v := by
  rw [Table.get?_eq_some_iff, entries_ofNames hd, List.mem_map]
  constructor
  · rintro ⟨m, hm, he⟩
    cases he
    exact ⟨hm, rfl⟩
  · rintro ⟨hn, rfl⟩
    exact ⟨n, hn, rfl⟩

/-- One truth value said of some names, which may come twice. -/
theorem get?_uniform (ns : List Name) (v : Truth) (n : Name) :
    (uniform ns v).get? n = if n ∈ ns then some v else none := by
  have hlookup (ms : List Name) : Table.lookup n (ms.map fun m => (m, v)) = if n ∈ ms then some v else none := by
    induction ms with
    | nil => rfl
    | cons m ms ih =>
      rw [List.map_cons, Table.lookup, ih]
      by_cases hm : m = n
      · simp [hm]
      · simp [hm, Ne.symm hm]
  rw [uniform, Table.ofList, Table.get?_setAll, ← List.map_reverse, hlookup, Table.get?_empty, Option.or_none]
  simp only [List.mem_reverse]

theorem set_ofNames (hd : ns.Nodup) (hn : n ∈ ns) (f : Name → Truth) (v : Truth) :
    (ofNames ns f).set n v = ofNames ns fun m => if m = n then v else f m := by
  apply Table.ext
  show Table.put n v (ofNames ns f).entries = (ofNames ns fun m => if m = n then v else f m).entries
  rw [entries_ofNames hd, entries_ofNames hd, Table.put_map hd hn]

theorem ofNames_congr {f g : Name → Truth} (h : ∀ n ∈ ns, f n = g n) : ofNames ns f = ofNames ns g := by
  rw [ofNames, ofNames, List.map_congr_left fun n hn => by rw [h n hn]]

end Named

/-! ## Conditions that are not known -/

variable {s : Facts}

theorem mem_unknowns {n : Name} : n ∈ s.unknowns ↔ s.get? n = some .unknown := by
  simp only [unknowns, Name.mem_sort, List.mem_map, List.mem_filter, beq_iff_eq, Prod.exists, exists_and_right,
    exists_eq_right, Table.get?_eq_some_iff]

theorem sorted_unknowns (s : Facts) : s.unknowns.Pairwise fun a b => a.before b = true :=
  Name.sorted_sort (s.distinct.sublist (List.filter_sublist.map _))

theorem unknowns_eq_nil (h : ∀ n, s.get? n ≠ some .unknown) : s.unknowns = [] :=
  List.eq_nil_iff_forall_not_mem.2 fun n hn => h n (mem_unknowns.1 hn)

theorem ne_unknown_of_unknowns_eq_nil (h : s.unknowns = []) (n : Name) : s.get? n ≠ some .unknown := by
  intro hn
  have hmem : n ∈ s.unknowns := mem_unknowns.2 hn
  rw [h] at hmem
  cases hmem

theorem unknowns_eq_singleton {c : Name} (h : ∀ n, s.get? n = some .unknown ↔ n = c) : s.unknowns = [c] := by
  have hc : c ∈ s.unknowns := mem_unknowns.2 ((h c).2 rfl)
  have hall : ∀ n ∈ s.unknowns, n = c := fun n hn => (h n).1 (mem_unknowns.1 hn)
  have hs := s.sorted_unknowns
  match hu : s.unknowns with
  | [] => rw [hu] at hc; cases hc
  | [n] => rw [hall n (by simp [hu])]
  | m :: n :: r =>
    rw [hu, hall m (by simp [hu]), hall n (by simp [hu])] at hs
    have := (List.pairwise_cons.1 hs).1 c List.mem_cons_self
    rw [Name.before_irrefl] at this
    cases this

theorem length_unknowns_le_one (h : ∀ m n, s.get? m = some .unknown → s.get? n = some .unknown → m = n) :
    s.unknowns.length ≤ 1 := by
  by_cases ho : ∃ c, s.get? c = some .unknown
  · obtain ⟨c, hc⟩ := ho
    rw [unknowns_eq_singleton fun n => ⟨fun hn => h n c hn hc, fun hn => hn ▸ hc⟩]
    exact Nat.le_refl 1
  · rw [unknowns_eq_nil fun n hn => ho ⟨n, hn⟩]
    exact Nat.zero_le 1

theorem mem_variants_of_ne_unknown {c : Name} {v : Truth} (hv : v ≠ .unknown) : s.set c v ∈ s.variants c := by
  cases v with
  | yes => exact .head _
  | no => exact .tail _ (.head _)
  | unknown => exact absurd rfl hv

theorem two_le_length_unknowns {m n : Name} (hmn : m ≠ n) (hm : s.get? m = some .unknown)
    (hn : s.get? n = some .unknown) : 2 ≤ s.unknowns.length := by
  have hs : [m, n].Nodup := by simpa using hmn
  refine hs.length_le_of_subset fun x hx => mem_unknowns.2 ?_
  simp only [List.mem_cons, List.not_mem_nil, or_false] at hx
  rcases hx with rfl | rfl
  · exact hm
  · exact hn

end Facts

end GoalPlanner
