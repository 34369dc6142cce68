import GoalPlanner.Condition

/-!
# What conditions come to

Evaluation leaves evaluators out, but it comes to the value that the three-valued connectives give a condition when all
of its evaluators are asked (`Condition.result_evaluate_of_value?`). The connectives keep what is known: if something
that was open is settled, their value stays unless it was open too (`Truth.SettledBy.and` and others). Hence so do the
values of conditions with these connectives, though other evaluators may run then (`Condition.evaluate_kleene`).

The evaluators that run are some of those in the condition, each at most once and from the left
(`Condition.sublist_ran_evaluate`), and a condition costs what one of its evaluators does
(`Condition.exists_leaf_cost_eq`).
-/

namespace GoalPlanner

/-! ## Truth values that get settled -/

namespace Truth

variable {s s' t t' : Truth}

/-! A negation, a conjunction or a disjunction is known just where its operands decide it. -/

theorem not_eq_yes_iff : s.not = yes ↔ s = no := by cases s <;> decide

theorem not_eq_no_iff : s.not = no ↔ s = yes := by cases s <;> decide

theorem and_eq_yes_iff : s.and t = yes ↔ s = yes ∧ t = yes := by cases s <;> cases t <;> decide

theorem and_eq_no_iff : s.and t = no ↔ s = no ∨ t = no := by cases s <;> cases t <;> decide

theorem or_eq_yes_iff : s.or t = yes ↔ s = yes ∨ t = yes := by cases s <;> cases t <;> decide

theorem or_eq_no_iff : s.or t = no ↔ s = no ∧ t = no := by cases s <;> cases t <;> decide

/-- A truth value that was not known may have become another; one that was known is still the same. -/
def SettledBy (s t : Truth) : Prop := s = unknown ∨ s = t

theorem settledBy_iff : s.SettledBy t ↔ (s = yes → t = yes) ∧ (s = no → t = no) := by
  cases s <;> cases t <;> simp [SettledBy]

theorem SettledBy.eq_of_ne (h : s.SettledBy t) (hs : s ≠ unknown) : s = t := h.resolve_left hs

protected theorem SettledBy.not (h : s.SettledBy t) : s.not.SettledBy t.not := by
  rw [settledBy_iff] at h ⊢
  simp only [not_eq_yes_iff, not_eq_no_iff]
  exact ⟨h.2, h.1⟩

protected theorem SettledBy.and (hs : s.SettledBy s') (ht : t.SettledBy t') : (s.and t).SettledBy (s'.and t') := by
  rw [settledBy_iff] at hs ht ⊢
  simp only [and_eq_yes_iff, and_eq_no_iff]
  exact ⟨fun h => ⟨hs.1 h.1, ht.1 h.2⟩, fun h => h.imp hs.2 ht.2⟩

protected theorem SettledBy.or (hs : s.SettledBy s') (ht : t.SettledBy t') : (s.or t).SettledBy (s'.or t') := by
  rw [settledBy_iff] at hs ht ⊢
  simp only [or_eq_yes_iff, or_eq_no_iff]
  exact ⟨fun h => h.imp hs.1 ht.1, fun h => ⟨hs.2 h.1, ht.2 h.2⟩⟩

end Truth

/-! ## Evaluations in turn -/

namespace Evaluation

variable {e : Evaluation} {next : Truth → Evaluation} {t : Truth} {f : Failure}

theorem andThen_of_ok (h : e.result = .ok t) : e.andThen next = ⟨(next t).result, e.ran ++ (next t).ran⟩ := by
  rw [andThen, h]

theorem andThen_of_error (h : e.result = .error f) : e.andThen next = ⟨.error f, e.ran⟩ := by
  rw [andThen, h]

theorem ran_andThen_done (e : Evaluation) (g : Truth → Truth) : (e.andThen fun t => .done (g t)).ran = e.ran := by
  cases h : e.result with
  | error f => rw [andThen_of_error h]
  | ok t =>
    rw [andThen_of_ok h]
    exact List.append_nil _

/-- What runs in turn runs in the order in which it may run. -/
theorem sublist_ran_andThen {ms ns : List String} (he : e.ran.Sublist ms) (hnext : ∀ t, (next t).ran.Sublist ns) :
    (e.andThen next).ran.Sublist (ms ++ ns) := by
  cases h : e.result with
  | error f =>
    rw [andThen_of_error h]
    exact he.trans (List.sublist_append_left ms ns)
  | ok t =>
    rw [andThen_of_ok h]
    exact he.append (hnext t)

end Evaluation

namespace Condition

variable {κ : Type} {c d : Condition κ} {u v : Context} {s : Truth}

/-! ## The value of a whole condition -/

/-- Conditions all parts of which come down to evaluators. -/
inductive Built : Condition κ → Prop
  | computed (name : String) (cost : κ) (evaluator : Context → Except Failure Value) :
      Built (.computed name cost evaluator)
  | not {c : Condition κ} : Built c → Built (.not c)
  | isUnknown {c : Condition κ} : Built c → Built (.isUnknown c)
  | and {c d : Condition κ} : Built c → Built d → Built (.and c d)
  | or {c d : Condition κ} : Built c → Built d → Built (.or c d)

/-- The evaluators in a condition, from the left. -/
def evaluators : Condition κ → List (Context → Except Failure Value)
  | computed _ _ evaluator => [evaluator]
  | abstract => []
  | not c | isUnknown c => c.evaluators
  | and c d | or c d => c.evaluators ++ d.evaluators

/-- A condition has a value if each of its evaluators has an answer. -/
theorem Built.exists_value? (hc : c.Built) (answers : ∀ e ∈ c.evaluators, ∃ x, e u = .ok x) :
    ∃ s, c.value? u = some s := by
  induction hc with
  | computed name cost evaluator =>
    obtain ⟨x, hx⟩ := answers _ List.mem_cons_self
    exact ⟨reported x, by simp only [value?, hx]⟩
  | not _ ih =>
    obtain ⟨s, hs⟩ := ih answers
    exact ⟨s.not, by rw [value?, hs, Option.map_some]⟩
  | isUnknown _ ih =>
    obtain ⟨s, hs⟩ := ih answers
    exact ⟨s.isUnknown, by rw [value?, hs, Option.map_some]⟩
  | and _ _ ihc ihd =>
    obtain ⟨s, hs⟩ := ihc fun e he => answers e (List.mem_append_left _ he)
    obtain ⟨t, ht⟩ := ihd fun e he => answers e (List.mem_append_right _ he)
    exact ⟨s.and t, by rw [value?, hs, ht]; rfl⟩
  | or _ _ ihc ihd =>
    obtain ⟨s, hs⟩ := ihc fun e he => answers e (List.mem_append_left _ he)
    obtain ⟨t, ht⟩ := ihd fun e he => answers e (List.mem_append_right _ he)
    exact ⟨s.or t, by rw [value?, hs, ht]; rfl⟩

/-- Evaluation comes to the value of the whole condition, whatever it leaves out. -/
theorem result_evaluate_of_value? (h : c.value? u = some s) : (c.evaluate u).result = .ok s := by
  induction c generalizing s with
  | computed name cost evaluator =>
    rw [value?] at h
    split at h
    · rename_i x hx
      rw [evaluate, hx, ← Option.some.inj h]
      rfl
    · cases h
  | abstract => cases h
  | not c ih =>
    obtain ⟨t, ht, rfl⟩ := Option.map_eq_some_iff.1 h
    rw [evaluate, Evaluation.andThen_of_ok (ih ht)]
    rfl
  | isUnknown c ih =>
    obtain ⟨t, ht, rfl⟩ := Option.map_eq_some_iff.1 h
    rw [evaluate, Evaluation.andThen_of_ok (ih ht)]
    rfl
  | and c d ihc ihd =>
    obtain ⟨s, hs, h⟩ := Option.bind_eq_some_iff.1 h
    obtain ⟨t, ht, h⟩ := Option.bind_eq_some_iff.1 h
    cases h
    rw [evaluate, Evaluation.andThen_of_ok (ihc hs)]
    by_cases hno : s = .no
    · rw [if_pos hno, hno, Truth.no_and]
      rfl
    · rw [if_neg hno, Evaluation.andThen_of_ok (ihd ht)]
      rfl
  | or c d ihc ihd =>
    obtain ⟨s, hs, h⟩ := Option.bind_eq_some_iff.1 h
    obtain ⟨t, ht, h⟩ := Option.bind_eq_some_iff.1 h
    cases h
    rw [evaluate, Evaluation.andThen_of_ok (ihc hs)]
    by_cases hyes : s = .yes
    · rw [if_pos hyes, hyes, Truth.yes_or]
      rfl
    · rw [if_neg hyes, Evaluation.andThen_of_ok (ihd ht)]
      rfl

/-! ## Conditions that get settled -/

/-- A condition with negations, conjunctions and disjunctions only, and another one that differs from it in evaluators:
each has an answer in its context, and the second one's is the first one's unless that leaves open what it asks. -/
inductive SettledBy (u v : Context) : Condition κ → Condition κ → Prop
  | computed {name : String} {cost : κ} {e f : Context → Except Failure Value} {x y : Value} (hx : e u = .ok x)
      (hy : f v = .ok y) (h : (reported x).SettledBy (reported y)) :
      SettledBy u v (.computed name cost e) (.computed name cost f)
  | not {c d : Condition κ} : SettledBy u v c d → SettledBy u v (.not c) (.not d)
  | and {c c' d d' : Condition κ} : SettledBy u v c c' → SettledBy u v d d' → SettledBy u v (.and c d) (.and c' d')
  | or {c c' d d' : Condition κ} : SettledBy u v c c' → SettledBy u v d d' → SettledBy u v (.or c d) (.or c' d')

theorem SettledBy.exists_value? (h : SettledBy u v c d) :
    ∃ s t, c.value? u = some s ∧ d.value? v = some t ∧ s.SettledBy t := by
  induction h with
  | computed hx hy h => exact ⟨_, _, by simp only [value?, hx], by simp only [value?, hy], h⟩
  | not _ ih =>
    obtain ⟨s, t, hs, ht, h⟩ := ih
    exact ⟨s.not, t.not, by rw [value?, hs, Option.map_some], by rw [value?, ht, Option.map_some], h.not⟩
  | and _ _ ihc ihd =>
    obtain ⟨s, s', hs, hs', hss⟩ := ihc
    obtain ⟨t, t', ht, ht', htt⟩ := ihd
    exact ⟨s.and t, s'.and t', by rw [value?, hs, ht]; rfl, by rw [value?, hs', ht']; rfl, hss.and htt⟩
  | or _ _ ihc ihd =>
    obtain ⟨s, s', hs, hs', hss⟩ := ihc
    obtain ⟨t, t', ht, ht', htt⟩ := ihd
    exact ⟨s.or t, s'.or t', by rw [value?, hs, ht]; rfl, by rw [value?, hs', ht']; rfl, hss.or htt⟩

/-- Conditions are evaluated by strong three-valued logic. If each evaluator in a condition has an answer, evaluation
comes to the value that the connectives give the whole condition. If it is known then, it is the same after some
evaluators that left open what they ask have got a definite answer, provided that nothing in the condition asks whether
something is known. -/
theorem evaluate_kleene {c : Condition κ} (hc : c.Built) {u : Context}
    (answers : ∀ e ∈ c.evaluators, ∃ x, e u = .ok x) :
    ∃ s, c.value? u = some s ∧ (c.evaluate u).result = .ok s ∧
      (s ≠ .unknown → ∀ (v : Context) (d : Condition κ), SettledBy u v c d → (d.evaluate v).result = .ok s) := by
  obtain ⟨s, hs⟩ := hc.exists_value? answers
  refine ⟨s, hs, result_evaluate_of_value? hs, fun hknown v d hcd => ?_⟩
  obtain ⟨s', t, hs', ht, hst⟩ := hcd.exists_value?
  have hsame : s = s' := Option.some.inj (hs.symm.trans hs')
  rw [result_evaluate_of_value? ht, hsame, hst.eq_of_ne (hsame ▸ hknown)]

namespace Weather

/-! It is not raining or it is windy, and it is a holiday; nobody has looked for rain yet. -/

def context : Context := ⟨.empty, []⟩

def rain (x : Value) : Condition Rat := .computed "rain" 1 fun _ => .ok x

def wind : Condition Rat := .computed "wind" 0 fun _ => .ok (.bool true)

def holiday : Condition Rat := .computed "holiday" 0 fun _ => .ok (.bool true)

def outing (x : Value) : Condition Rat := .and (.or (.not (rain x)) wind) holiday

end Weather

open Weather in
/-- Looking for rain does not change that there is an outing. -/
theorem evaluate_kleene_outing :
    ((outing .null).evaluate context).result = .ok .yes ∧
      ((outing (.bool true)).evaluate context).result = .ok .yes := by
  have hbuilt : (outing .null).Built := .and (.or (.not (.computed ..)) (.computed ..)) (.computed ..)
  have answers : ∀ e ∈ (outing .null).evaluators, ∃ x, e context = .ok x := by
    simp [outing, rain, wind, holiday, evaluators]
  have hsettled : SettledBy context context (outing .null) (outing (.bool true)) :=
    .and (.or (.not (.computed rfl rfl (.inl rfl))) (.computed rfl rfl (.inr rfl))) (.computed rfl rfl (.inr rfl))
  obtain ⟨s, hs, hresult, hknown⟩ := evaluate_kleene hbuilt answers
  cases (show some Truth.yes = some s from hs)
  exact ⟨hresult, hknown (by decide) _ _ hsettled⟩

/-! ## What runs and what it costs -/

/-- The evaluators that run are some of those in the condition, in their order. -/
theorem sublist_ran_evaluate (c : Condition κ) (u : Context) : (c.evaluate u).ran.Sublist (c.leaves.map Prod.fst) := by
  induction c with
  | computed name cost evaluator => exact List.Sublist.refl [name]
  | abstract => exact List.nil_sublist _
  | not c ih =>
    rw [evaluate, Evaluation.ran_andThen_done]
    exact ih
  | isUnknown c ih =>
    rw [evaluate, Evaluation.ran_andThen_done]
    exact ih
  | and c d ihc ihd =>
    rw [leaves, List.map_append]
    refine Evaluation.sublist_ran_andThen ihc fun s => ?_
    split
    · exact List.nil_sublist _
    · rw [Evaluation.ran_andThen_done]
      exact ihd
  | or c d ihc ihd =>
    rw [leaves, List.map_append]
    refine Evaluation.sublist_ran_andThen ihc fun s => ?_
    split
    · exact List.nil_sublist _
    · rw [Evaluation.ran_andThen_done]
      exact ihd

variable [Cost κ]

/-- The smaller of two costs is found where both are. -/
theorem exists_mem_append_lesser {xs ys : List (String × κ)} {a b : κ} (hx : ∃ x ∈ xs, x.2 = a)
    (hy : ∃ y ∈ ys, y.2 = b) : ∃ z ∈ xs ++ ys, z.2 = lesser a b := by
  rw [lesser]
  split
  · obtain ⟨y, hy, h⟩ := hy
    exact ⟨y, List.mem_append_right _ hy, h⟩
  · obtain ⟨x, hx, h⟩ := hx
    exact ⟨x, List.mem_append_left _ hx, h⟩

/-- A condition costs what one of its evaluators does. -/
theorem exists_leaf_cost_eq (hc : c.Built) : ∃ leaf ∈ c.leaves, leaf.2 = c.cost := by
  induction hc with
  | computed name cost evaluator => exact ⟨_, List.mem_cons_self, rfl⟩
  | not _ ih => exact ih
  | isUnknown _ ih => exact ih
  | and _ _ ihc ihd => exact exists_mem_append_lesser ihc ihd
  | or _ _ ihc ihd => exact exists_mem_append_lesser ihc ihd

end Condition

end GoalPlanner
