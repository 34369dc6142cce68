import GoalPlanner.Document.Domain
import GoalPlanner.Proofs.Document.Fields
import Mathlib

/-!
# What documents of domains say

Whether an entry is read is a matter of its parts alone (`readAction_eq_ok_iff`, `readGoal_eq_ok_iff`), and what is read
of it is what its fields say (`StatesAction`, `StatesGoal`). Of a document whose entries can be read only two things are
left to go wrong (`exists_readDomain_iff`): a name that two actions or two goals share, and a state of the world that is
no mapping to truth values (`IsState`). Names that are not shared keep all actions and goals apart
(`Domain.make?_of_nodup`), so no entry is lost when they make up a domain.
-/

namespace GoalPlanner

/-! ## Distinct names -/

section

variable {α : Type} {name : α → String}

theorem distinctBy_eq_self {same : α → α → Bool} (hsame : ∀ a b, same a b = true → name a = name b) {xs : List α}
    (hd : (xs.map name).Nodup) : distinctBy same xs = xs := by
  have hfold (ys kept : List α) (hd : ((kept ++ ys).map name).Nodup) :
      ys.foldl (fun kept x => if kept.any (same x) then kept else kept ++ [x]) kept = kept ++ ys := by
    induction ys generalizing kept with
    | nil => simp
    | cons y ys ih =>
      have hnew : kept.any (same y) = false := by
        rw [List.any_eq_false]
        intro x hx hxy
        rw [List.map_append, List.nodup_append] at hd
        exact hd.2.2 _ (List.mem_map_of_mem hx) _ (List.mem_map_of_mem List.mem_cons_self) (hsame y x hxy).symm
      rw [List.foldl_cons, hnew, if_neg Bool.false_ne_true, ih _ (by rwa [List.append_assoc]), List.append_assoc]
      rfl
  exact hfold xs [] hd

theorem firstRepeated_eq_none {ns : List String} (h : ns.Nodup) : firstRepeated ns = none := by
  induction ns with
  | nil => rfl
  | cons n ns ih =>
    rw [List.nodup_cons] at h
    rw [firstRepeated, if_neg (by simpa using h.1), ih h.2]

end

/-- Actions and goals of distinct names make a domain as they are. -/
theorem Domain.make?_of_nodup {κ : Type} [Cost κ] {as : List (Action κ)} {gs : List (Goal κ)}
    (ha : (as.map Action.name).Nodup) (hg : (gs.map Goal.name).Nodup) : Domain.make? as gs = .ok ⟨as, gs, ha, hg⟩ := by
  have has : distinctBy Action.same as = as := distinctBy_eq_self (fun a b h => by
    simp only [Action.same, Bool.and_eq_true, beq_iff_eq] at h
    exact h.1.1.1.1) ha
  have hgs : distinctBy Goal.same gs = gs := distinctBy_eq_self (fun g h hgh => by
    simp only [Goal.same, Bool.and_eq_true, beq_iff_eq] at hgh
    exact hgh.1.1.1) hg
  unfold Domain.make?
  dsimp only
  split
  · rename_i name h
    rw [has, firstRepeated_eq_none ha] at h
    cases h
  · split
    · rename_i name h
      rw [hgs, firstRepeated_eq_none hg] at h
      cases h
    · simp only [has, hgs]

theorem Action.make?_eq_ok_iff {κ : Type} [Cost κ] {name : String} {pre eff : Facts} {cost value : κ} {a : Action κ} :
    Action.make? name pre eff cost value = .ok a ↔
      a.name = name ∧ a.pre = pre ∧ a.eff = eff ∧ a.cost = cost ∧ a.value = value := by
  constructor
  · intro h
    unfold Action.make? at h
    split at h
    · cases h
    · split at h
      · cases h
      · cases h
        exact ⟨rfl, rfl, rfl, rfl, rfl⟩
  · rintro ⟨rfl, rfl, rfl, rfl, rfl⟩
    rw [Action.make?, dif_neg a.named, dif_neg a.nonneg]

theorem Goal.make?_eq_ok_iff {κ : Type} [Cost κ] {name description : String} {pre : Option Facts} {value : κ}
    {g : Goal κ} : Goal.make? name pre value description = .ok g ↔
      g.name = name ∧ g.pre = pre.getD (Facts.uniform [.text name] .yes) ∧ g.value = value ∧
        g.description = description := by
  constructor
  · intro h
    unfold Goal.make? at h
    split at h
    · cases h
    · cases h
      exact ⟨rfl, rfl, rfl, rfl⟩
  · rintro ⟨rfl, hpre, rfl, rfl⟩
    rw [Goal.make?, dif_neg g.named, ← hpre]

namespace Document

theorem mapError_eq_ok_iff {ε ε' α : Type} {f : ε → ε'} {x : Except ε α} {a : α} :
    x.mapError f = .ok a ↔ x = .ok a := by
  cases x <;> simp [Except.mapError]

theorem mem_repeatedNames {ns : List String} {n : String} : n ∈ repeatedNames ns ↔ 1 < ns.count n := by
  rw [repeatedNames, List.mem_mergeSort, List.mem_eraseDups, List.mem_filter, decide_eq_true_iff,
    and_iff_right_of_imp]
  exact fun h => List.count_pos_iff.1 (Nat.zero_lt_of_lt h)

theorem repeatedNames_eq_nil_iff {ns : List String} : repeatedNames ns = [] ↔ ns.Nodup := by
  simp only [List.eq_nil_iff_forall_not_mem, mem_repeatedNames, Nat.not_lt, List.nodup_iff_count_le_one]

theorem checkNames_eq (part : String) (source : Option String) (ns : List String) :
    checkNames part source ns = if ns.Nodup then .ok () else .error (.repeated part (repeatedNames ns) source) := by
  simp only [checkNames, List.isEmpty_iff, repeatedNames_eq_nil_iff]

/-! ## Entries -/

theorem namedFields_eq_ok_iff {part : String} {otherwise : DocumentError} {entry : Value}
    {fields : List (Value × Value)} : namedFields part otherwise entry = .ok fields ↔
      entry = .mapping fields ∧ (Value.field? "name" fields).isSome := by
  unfold namedFields
  cases entry with
  | mapping es =>
    dsimp only
    split
    · rename_i h
      rw [Except.ok.injEq, Value.mapping.injEq, iff_self_and]
      rintro rfl
      exact h
    · rename_i h
      refine iff_of_false (fun he => nomatch he) ?_
      rintro ⟨he, hname⟩
      cases he
      exact h hname
  | list | tuple | text =>
    dsimp only
    split <;> simp
  | _ => simp

/-- An action is read just if its parts are. -/
theorem readAction_eq_ok_iff {entry : Value} {a : Action Float} : readAction entry = .ok a ↔
    ∃ fields, entry = .mapping fields ∧ (Value.field? "name" fields).isSome ∧ a.name = readText "name" fields ∧
      readSpec (Value.getD "preconditions" fields) (Value.getD "pre" fields) = .ok a.pre ∧
      readSpec (Value.getD "effects" fields) (Value.getD "post" fields) = .ok a.eff ∧
      readOptional "cost" fields = .ok a.cost ∧ readOptional "value" fields = .ok a.value := by
  simp only [readAction, bind_eq_ok_iff, namedFields_eq_ok_iff, mapError_eq_ok_iff, Action.make?_eq_ok_iff]
  constructor
  · rintro ⟨fields, ⟨rfl, hname⟩, pre, hpre, eff, heff, cost, hcost, value, hvalue, ha, rfl, rfl, rfl, rfl⟩
    exact ⟨fields, rfl, hname, ha, hpre, heff, hcost, hvalue⟩
  · rintro ⟨fields, rfl, hname, ha, hpre, heff, hcost, hvalue⟩
    exact ⟨fields, ⟨rfl, hname⟩, _, hpre, _, heff, _, hcost, _, hvalue, ha, rfl, rfl, rfl, rfl⟩

/-- A goal is read just if its parts are. -/
theorem readGoal_eq_ok_iff {entry : Value} {g : Goal Float} : readGoal entry = .ok g ↔
    ∃ fields pre, entry = .mapping fields ∧ (Value.field? "name" fields).isSome ∧ g.name = readText "name" fields ∧
      readGoalSpec (Value.getD "preconditions" fields) (Value.getD "pre" fields) = .ok pre ∧
      g.pre = pre.getD (Facts.uniform [.text g.name] .yes) ∧
      readOptional "value" fields = .ok g.value ∧ g.description = readText "description" fields := by
  simp only [readGoal, bind_eq_ok_iff, namedFields_eq_ok_iff, mapError_eq_ok_iff, Goal.make?_eq_ok_iff]
  constructor
  · rintro ⟨fields, ⟨rfl, hname⟩, pre, hpre, value, hvalue, hg, hgpre, rfl, hdescription⟩
    exact ⟨fields, pre, rfl, hname, hg, hpre, hg ▸ hgpre, hvalue, hdescription⟩
  · rintro ⟨fields, pre, rfl, hname, hg, hpre, hgpre, hvalue, hdescription⟩
    exact ⟨fields, ⟨rfl, hname⟩, pre, hpre, _, hvalue, hg, hg ▸ hgpre, rfl, hdescription⟩

/-! ## The state of the world -/

/-- Values that can be read as the state of the world: mappings to what states truth values, and what counts as
false. -/
structure IsState (v : Value) : Prop where
  mapping : v.isTrue = true → v = .mapping (entries v)
  truths : ∀ e ∈ entries v, ∃ t, readTruth e.2 = .ok t

theorem exists_readConditions_iff {v : Value} : (∃ xs, readConditions v = .ok xs) ↔ IsState v := by
  have htruths : (∃ xs, List.Forall₂ Reads (entries v) xs) ↔ ∀ e ∈ entries v, ∃ t, readTruth e.2 = .ok t := by
    refine exists_forall₂_iff.trans (forall₂_congr fun e _ => ?_)
    exact ⟨fun ⟨x, hx⟩ => ⟨x.2, hx.2⟩, fun ⟨t, ht⟩ => ⟨(.text e.1.shown, t), rfl, ht⟩⟩
  simp only [readConditions_eq_ok_iff, exists_and_left, htruths]
  exact ⟨fun ⟨hv, ht⟩ => ⟨hv, ht⟩, fun h => ⟨h.mapping, h.truths⟩⟩

theorem readState_eq {v : Value} (hv : v ≠ .null) :
    readState v = (readConditions v).map fun xs => some (combine (Facts.uniform [] .yes) xs) := by
  have hspec : readState v = (readSpec v .null).map some := by
    rw [readState]
    exact hv
  have hnames : readNames .null = .ok (Facts.uniform [] .yes) := rfl
  rw [hspec, readSpec, hnames]
  cases readConditions v <;> rfl

theorem exists_readState_iff {v : Value} : (∃ x, readState v = .ok x) ↔ IsState v := by
  by_cases hv : v = .null
  · subst hv
    exact iff_of_true ⟨none, rfl⟩ ⟨Bool.noConfusion, List.forall_mem_nil _⟩
  · rw [readState_eq hv, ← exists_readConditions_iff]
    cases readConditions v <;> simp [Except.map]

theorem readTruth_refusal {v : Value} {e : DocumentError} (h : readTruth v = .error e) : ∃ u, e = .notTruth u := by
  cases v with
  | text s =>
    rw [readTruth] at h
    cases ht : Truth.ofWord? s with
    | none =>
      rw [ht] at h
      cases h
      exact ⟨_, rfl⟩
    | some t =>
      rw [ht] at h
      cases h
  | _ => cases h <;> exact ⟨_, rfl⟩

theorem readConditions_refusal {v : Value} {e : DocumentError} (h : readConditions v = .error e) :
    (∃ u, e = .notTruth u) ∨ e = .notConditions v := by
  unfold readConditions at h
  split at h
  · cases v with
    | mapping es =>
      obtain ⟨x, -, hx⟩ := exists_eq_error_of_mapM h
      rcases bind_eq_error_iff.1 hx with hx | ⟨t, -, hx⟩
      · exact .inl (readTruth_refusal hx)
      · cases hx
    | _ =>
      cases h
      exact .inr rfl
  · cases h

theorem readState_refusal {v : Value} {e : DocumentError} (h : readState v = .error e) :
    (∃ u, e = .notTruth u) ∨ e = .notConditions v := by
  by_cases hv : v = .null
  · subst hv
    cases h
  · rw [readState_eq hv] at h
    cases hc : readConditions v with
    | ok xs =>
      rw [hc] at h
      cases h
    | error e' =>
      rw [hc] at h
      cases h
      exact readConditions_refusal hc

/-! ## Documents -/

section

variable {fields : List (Value × Value)} {source : Option String} {as gs : List Value} {actions : List (Action Float)}
  {goals : List (Goal Float)} {l : Loaded}

/-- Once the entries have been read, names are compared before the state of the world is read. -/
theorem readDomain_of_entries (has : listed (Value.getD "actions" fields) = .ok as)
    (hactions : as.mapM readAction = .ok actions) (hgs : listed (Value.getD "goals" fields) = .ok gs)
    (hgoals : gs.mapM readGoal = .ok goals) :
    readDomain fields source = do
      checkNames "action" source (actions.map Action.name)
      checkNames "goal" source (goals.map Goal.name)
      let state ← readState (Value.getD "world_state" fields)
      let domain ← (Domain.make? actions goals).mapError .domain
      return ⟨domain, state, source⟩ := by
  rw [readDomain, has]
  show (as.mapM readAction >>= _) = _
  rw [hactions]
  show (listed (Value.getD "goals" fields) >>= _) = _
  rw [hgs]
  show (gs.mapM readGoal >>= _) = _
  rw [hgoals]
  rfl

theorem checkNames_eq_ok_iff {part : String} {ns : List String} {u : Unit} :
    checkNames part source ns = .ok u ↔ ns.Nodup := by
  rw [checkNames_eq]
  split <;> simp [*]

/-- What a document gives is what its entries give, one by one, and the state of the world. -/
theorem readDomain_eq_ok_iff : readDomain fields source = .ok l ↔
    ∃ as gs, listed (Value.getD "actions" fields) = .ok as ∧ as.mapM readAction = .ok l.domain.actions ∧
      listed (Value.getD "goals" fields) = .ok gs ∧ gs.mapM readGoal = .ok l.domain.goals ∧
      readState (Value.getD "world_state" fields) = .ok l.state ∧ l.source = source := by
  constructor
  · intro h
    simp only [readDomain, bind_eq_ok_iff, checkNames_eq_ok_iff, mapError_eq_ok_iff] at h
    obtain ⟨as, has, actions, hactions, gs, hgs, goals, hgoals, -, ha, -, hg, state, hstate, d, hd, hl⟩ := h
    rw [Domain.make?_of_nodup ha hg] at hd
    cases hd
    cases hl
    exact ⟨as, gs, has, hactions, hgs, hgoals, hstate, rfl⟩
  · rintro ⟨as, gs, has, hactions, hgs, hgoals, hstate, rfl⟩
    rw [readDomain_of_entries has hactions hgs hgoals, checkNames_eq, if_pos l.domain.actionNames, checkNames_eq,
      if_pos l.domain.goalNames, hstate, Domain.make?_of_nodup l.domain.actionNames l.domain.goalNames]
    rfl

/-! ## Entries and what is read of them -/

/-- The text of the name of an entry. -/
def nameText : Value → String
  | .mapping fields => readText "name" fields
  | _ => ""

/-- An action that is what the fields of an entry say. -/
structure StatesAction (fields : List (Value × Value)) (a : Action Float) : Prop where
  name : ∃ v, Value.field? "name" fields = some v ∧ a.name = v.shown
  pre : ∀ ss, ListsTexts (Value.getD "pre" fields) ss → Gives (Value.getD "preconditions" fields) ss a.pre
  eff : ∀ ss, ListsTexts (Value.getD "post" fields) ss → Gives (Value.getD "effects" fields) ss a.eff
  cost : readOptional "cost" fields = .ok a.cost
  value : readOptional "value" fields = .ok a.value

/-- A goal that is what the fields of an entry say; without requirements in either spelling it requires the condition of
its name. -/
structure StatesGoal (fields : List (Value × Value)) (g : Goal Float) : Prop where
  name : ∃ v, Value.field? "name" fields = some v ∧ g.name = v.shown
  pre : Value.getD "preconditions" fields ≠ .null ∨ Value.getD "pre" fields ≠ .null →
    ∀ ss, ListsTexts (Value.getD "pre" fields) ss → Gives (Value.getD "preconditions" fields) ss g.pre
  own : Value.getD "preconditions" fields = .null → Value.getD "pre" fields = .null →
    ∀ n, g.pre.get? n = if n = .text g.name then some .yes else none
  value : readOptional "value" fields = .ok g.value
  description : g.description = readText "description" fields

theorem eq_shown_of_readText {name : String} (hname : (Value.field? "name" fields).isSome)
    (h : name = readText "name" fields) : ∃ v, Value.field? "name" fields = some v ∧ name = v.shown := by
  obtain ⟨v, hv⟩ := Option.isSome_iff_exists.1 hname
  exact ⟨v, hv, by rw [h, readText, hv]; rfl⟩

theorem statesAction_of_readAction {entry : Value} {a : Action Float} (h : readAction entry = .ok a) :
    ∃ fields, entry = .mapping fields ∧ StatesAction fields a := by
  obtain ⟨fields, rfl, hname, ha, hpre, heff, hcost, hvalue⟩ := readAction_eq_ok_iff.1 h
  exact ⟨fields, rfl, eq_shown_of_readText hname ha, fun ss hss => gives_of_readSpec hss hpre,
    fun ss hss => gives_of_readSpec hss heff, hcost, hvalue⟩

/-- A goal has requirements of its own unless it gives them in neither spelling. -/
theorem readGoalSpec_eq_ok_iff {explicit names : Value} {pre : Option Facts} :
    readGoalSpec explicit names = .ok pre ↔ (explicit = .null ∧ names = .null ∧ pre = none) ∨
      ((explicit ≠ .null ∨ names ≠ .null) ∧ ∃ f, readSpec explicit names = .ok f ∧ pre = some f) := by
  by_cases hgiven : explicit ≠ .null ∨ names ≠ .null
  · have hspec : readGoalSpec explicit names = (readSpec explicit names).map some := by
      rw [readGoalSpec]
      rintro rfl rfl
      exact hgiven.elim (absurd rfl) (absurd rfl)
    have hnot : ¬(explicit = .null ∧ names = .null ∧ pre = none) := fun h => hgiven.elim (· h.1) (· h.2.1)
    rw [hspec, or_iff_right hnot, and_iff_right hgiven]
    cases readSpec explicit names <;> simp [Except.map, eq_comm]
  · obtain ⟨rfl, rfl⟩ : explicit = .null ∧ names = .null := by simpa only [not_or, not_not] using hgiven
    have hnone : readGoalSpec .null .null = .ok none := rfl
    simp [hnone, eq_comm]

theorem statesGoal_of_readGoal {entry : Value} {g : Goal Float} (h : readGoal entry = .ok g) :
    ∃ fields, entry = .mapping fields ∧ StatesGoal fields g := by
  obtain ⟨fields, pre, rfl, hname, hg, hpre, hgpre, hvalue, hdescription⟩ := readGoal_eq_ok_iff.1 h
  refine ⟨fields, rfl, eq_shown_of_readText hname hg, fun hgiven ss hss => ?_, fun he hn n => ?_, hvalue, hdescription⟩
  · rcases readGoalSpec_eq_ok_iff.1 hpre with ⟨he, hn, -⟩ | ⟨-, f, hf, rfl⟩
    · exact absurd hgiven (not_or.2 ⟨not_not.2 he, not_not.2 hn⟩)
    · rw [hgpre]
      exact gives_of_readSpec hss hf
  · rw [he, hn] at hpre
    cases hpre
    rw [hgpre, Option.getD_none, Facts.get?_uniform]
    simp only [List.mem_singleton]

theorem map_name_of_mapM_readAction (h : as.mapM readAction = .ok actions) :
    actions.map Action.name = as.map nameText := by
  rw [← List.forall₂_eq_eq_eq, List.forall₂_map_left_iff, List.forall₂_map_right_iff]
  refine (mapM_eq_ok_iff.1 h).flip.imp fun a entry ha => ?_
  obtain ⟨fields, rfl, -, ha, -⟩ := readAction_eq_ok_iff.1 ha
  exact ha

theorem map_name_of_mapM_readGoal (h : gs.mapM readGoal = .ok goals) : goals.map Goal.name = gs.map nameText := by
  rw [← List.forall₂_eq_eq_eq, List.forall₂_map_left_iff, List.forall₂_map_right_iff]
  refine (mapM_eq_ok_iff.1 h).flip.imp fun g entry hg => ?_
  obtain ⟨fields, _, rfl, -, hg, -⟩ := readGoal_eq_ok_iff.1 hg
  exact hg

/-- Once its entries have been read, a document is refused just if two actions or two goals have names of one text, or
if its state of the world cannot be read. -/
theorem exists_readDomain_iff (has : listed (Value.getD "actions" fields) = .ok as)
    (hactions : as.mapM readAction = .ok actions) (hgs : listed (Value.getD "goals" fields) = .ok gs)
    (hgoals : gs.mapM readGoal = .ok goals) :
    (∃ l, readDomain fields source = .ok l) ↔
      (as.map nameText).Nodup ∧ (gs.map nameText).Nodup ∧ IsState (Value.getD "world_state" fields) := by
  rw [← map_name_of_mapM_readAction hactions, ← map_name_of_mapM_readGoal hgoals, ← exists_readState_iff]
  constructor
  · rintro ⟨l, hl⟩
    obtain ⟨as', gs', has', hactions', hgs', hgoals', hstate, -⟩ := readDomain_eq_ok_iff.1 hl
    obtain rfl : as = as' := Except.ok.inj (has.symm.trans has')
    obtain rfl : gs = gs' := Except.ok.inj (hgs.symm.trans hgs')
    obtain rfl : actions = l.domain.actions := Except.ok.inj (hactions.symm.trans hactions')
    obtain rfl : goals = l.domain.goals := Except.ok.inj (hgoals.symm.trans hgoals')
    -- the names in a domain are distinct
    exact ⟨l.domain.actionNames, l.domain.goalNames, _, hstate⟩
  · rintro ⟨ha, hg, state, hstate⟩
    exact ⟨⟨⟨actions, goals, ha, hg⟩, state, source⟩,
      readDomain_eq_ok_iff.2 ⟨as, gs, has, hactions, hgs, hgoals, hstate, rfl⟩⟩

/-- The refusal of a document whose entries have been read says which names are shared, or what keeps its state of the
world from being read. -/
theorem refusal_of_entries (has : listed (Value.getD "actions" fields) = .ok as)
    (hactions : as.mapM readAction = .ok actions) (hgs : listed (Value.getD "goals" fields) = .ok gs)
    (hgoals : gs.mapM readGoal = .ok goals) {e : DocumentError} (h : readDomain fields source = .error e) :
    e = .repeated "action" (repeatedNames (as.map nameText)) source ∨
      e = .repeated "goal" (repeatedNames (gs.map nameText)) source ∨
      (∃ v, e = .notTruth v) ∨ e = .notConditions (Value.getD "world_state" fields) := by
  rw [readDomain_of_entries has hactions hgs hgoals, map_name_of_mapM_readAction hactions,
    map_name_of_mapM_readGoal hgoals, checkNames_eq, checkNames_eq] at h
  by_cases ha : (as.map nameText).Nodup
  · rw [if_pos ha] at h
    by_cases hg : (gs.map nameText).Nodup
    · rw [if_pos hg] at h
      change (readState _ >>= _) = _ at h
      rcases bind_eq_error_iff.1 h with h | ⟨state, -, h⟩
      · exact .inr (.inr (readState_refusal h))
      · -- names that are not shared make a domain
        rw [← map_name_of_mapM_readAction hactions] at ha
        rw [← map_name_of_mapM_readGoal hgoals] at hg
        rw [Domain.make?_of_nodup ha hg] at h
        cases h
    · rw [if_neg hg] at h
      cases h
      exact .inr (.inl rfl)
  · rw [if_neg ha] at h
    cases h
    exact .inl rfl

/-- Reading a document loses and invents nothing. A document that is read gives one action for each entry of its actions
and one goal for each of its goals, in their order, that are what the entries say. A document whose entries can be read
is refused just if two actions or two goals have names of one text, or if its state of the world cannot be read; the
refusal names all texts that are shared, or what cannot be read. -/
theorem readDomain_lossless (fields : List (Value × Value)) (source : Option String) :
    (∀ l, readDomain fields source = .ok l → ∃ as gs,
      listed (Value.getD "actions" fields) = .ok as ∧ listed (Value.getD "goals" fields) = .ok gs ∧
      List.Forall₂ (fun entry a => ∃ fs, entry = .mapping fs ∧ StatesAction fs a) as l.domain.actions ∧
      List.Forall₂ (fun entry g => ∃ fs, entry = .mapping fs ∧ StatesGoal fs g) gs l.domain.goals) ∧
    ∀ as gs actions goals, listed (Value.getD "actions" fields) = .ok as → as.mapM readAction = .ok actions →
      listed (Value.getD "goals" fields) = .ok gs → gs.mapM readGoal = .ok goals →
      ((∃ l, readDomain fields source = .ok l) ↔
        (as.map nameText).Nodup ∧ (gs.map nameText).Nodup ∧ IsState (Value.getD "world_state" fields)) ∧
      ∀ e, readDomain fields source = .error e →
        e = .repeated "action" (repeatedNames (as.map nameText)) source ∨
          e = .repeated "goal" (repeatedNames (gs.map nameText)) source ∨
          (∃ v, e = .notTruth v) ∨ e = .notConditions (Value.getD "world_state" fields) := by
  refine ⟨fun l hl => ?_, fun as gs actions goals has hactions hgs hgoals =>
    ⟨exists_readDomain_iff has hactions hgs hgoals, fun e => refusal_of_entries has hactions hgs hgoals⟩⟩
  obtain ⟨as, gs, has, hactions, hgs, hgoals, -⟩ := readDomain_eq_ok_iff.1 hl
  exact ⟨as, gs, has, hgs, (mapM_eq_ok_iff.1 hactions).imp fun _ _ => statesAction_of_readAction,
    (mapM_eq_ok_iff.1 hgoals).imp fun _ _ => statesGoal_of_readGoal⟩

end

namespace Kitchen

/-! An action with a number for a name turns a stove and no power into food. Food is a goal. -/

def cook : List (Value × Value) :=
  [(.text "name", .int 7), (.text "pre", .list [.text "stove", .text "power"]),
    (.text "preconditions", .mapping [(.text "power", .bool false)]), (.text "post", .list [.text "food"])]

def food : List (Value × Value) := [(.text "name", .text "food")]

def document : List (Value × Value) :=
  [(.text "actions", .list [.mapping cook]), (.text "goals", .list [.mapping food])]

theorem readAction_cook : ∃ a, readAction (.mapping cook) = .ok a := ⟨_, rfl⟩

theorem readGoal_food : ∃ g, readGoal (.mapping food) = .ok g := ⟨_, rfl⟩

end Kitchen

open Kitchen in
/-- The document is read; the explicit condition of the action wins, and the goal requires the condition of its name. -/
theorem readDomain_lossless_kitchen : ∃ l a g, readDomain document none = .ok l ∧ l.domain.actions = [a] ∧
    l.domain.goals = [g] ∧ a.name = "7" ∧ a.pre.get? "stove" = some .yes ∧ a.pre.get? "power" = some .no ∧
    a.eff.get? "food" = some .yes ∧ g.pre.get? "food" = some .yes := by
  obtain ⟨a, ha⟩ := readAction_cook
  obtain ⟨g, hg⟩ := readGoal_food
  obtain ⟨hread, haccept⟩ := readDomain_lossless document none
  have hactions : [Value.mapping cook].mapM readAction = .ok [a] := mapM_eq_ok_iff.2 (.cons ha .nil)
  have hgoals : [Value.mapping food].mapM readGoal = .ok [g] := mapM_eq_ok_iff.2 (.cons hg .nil)
  obtain ⟨l, hl⟩ := (haccept _ _ _ _ rfl hactions rfl hgoals).1.2
    ⟨List.nodup_singleton _, List.nodup_singleton _, Bool.noConfusion, List.forall_mem_nil _⟩
  obtain ⟨as, gs, has, hgs, hactions, hgoals⟩ := hread l hl
  cases has
  cases hgs
  obtain ⟨b, bs, ⟨fs, hfs, hb⟩, hbs, hlb⟩ := List.forall₂_cons_left_iff.1 hactions
  obtain ⟨f, fs', ⟨gs, hgs, hf⟩, hfs', hlf⟩ := List.forall₂_cons_left_iff.1 hgoals
  obtain rfl := List.forall₂_nil_left_iff.1 hbs
  obtain rfl := List.forall₂_nil_left_iff.1 hfs'
  cases hfs
  cases hgs
  have hpre := hb.pre ["stove", "power"] (.list ["stove", "power"])
  obtain ⟨t, ht, hpower⟩ := hpre.stated "power" (.bool false) rfl
  cases ht
  obtain ⟨v, hv, hcook⟩ := hb.name
  cases hv
  obtain ⟨u, hu, hfood⟩ := hf.name
  cases hu
  exact ⟨l, b, f, hl, hlb, hlf, hcook, hpre.named "stove" rfl, hpower,
    (hb.eff ["food"] (.list ["food"])).named "food" rfl, (hf.own rfl rfl "food").trans (if_pos (by rw [hfood]; rfl))⟩

end Document

end GoalPlanner
