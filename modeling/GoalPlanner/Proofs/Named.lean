import GoalPlanner.Proofs.Condition
import GoalPlanner.Proofs.Query
import GoalPlanner.Proofs.World
import Mathlib.Data.List.Nodup

/-!
# Which conditions are evaluated

A name without a colon that is not that of an action's run asks for the first registered condition that is called so:
by the whole of its own name or by what follows a point in it (`Condition.isCalled_iff`, `Query.ofName_of_find?`). So
asking for the whole name of a condition evaluates just that one unless a condition registered before it hides it
(`Resolution.ask_named`).

A state is supplied by evaluating, in turn, the conditions that its names ask for and whose evaluations do not wait
(`Resolution.exists_ran_determineAll`). Since a condition costs what its cheapest evaluator does, an evaluator that
costs more than the limit runs only beside one that does not (`Resolution.ran_state`).
-/

namespace GoalPlanner

variable {κ : Type}

/-! ## Names of conditions -/

/-- The name of a condition ends in a point and another name. -/
def Condition.EndsIn (c : Condition κ) (name : String) : Prop := ('.' :: name.toList) <:+ c.name.toList

instance (c : Condition κ) (name : String) : Decidable (c.EndsIn name) :=
  inferInstanceAs (Decidable (('.' :: name.toList) <:+ c.name.toList))

theorem Condition.isCalled_iff {c : Condition κ} {name : String} :
    c.isCalled name = true ↔ c.name = name ∨ c.EndsIn name := by
  simp [isCalled, EndsIn]

/-- Without a colon and the beginning of an action's run, a name asks for the first condition that is called so. -/
theorem Query.ofName_of_find? {conditions : List (Condition κ)} {name : String} {c : Condition κ}
    (hcolon : ':' ∉ name.toList) (hrun : ¬(GoalPlanner.hasRun "").toList <+: name.toList)
    (hfind : (conditions.find? fun c => c.isCalled name) = some c) : ofName conditions name = named c := by
  have hran : ranAction? name = none :=
    ranAction?_eq_none (Bool.eq_false_iff.2 (mt List.isPrefixOf_iff_prefix.1 hrun))
  simp only [ofName, splitAtColon?_eq_none hcolon, hran, hfind]

/-- Among conditions of different names, the one of a name is the first that is called so just if none before it has a
name that ends in this one. -/
theorem find?_isCalled_name {before after : List (Condition κ)} {c : Condition κ}
    (distinct : ((before ++ c :: after).map Condition.name).Nodup) :
    ∃ first, ((before ++ c :: after).find? fun b => b.isCalled c.name) = some first ∧
      (first = c ↔ ∀ b ∈ before, ¬b.EndsIn c.name) := by
  have hother : ∀ b ∈ before, b.name ≠ c.name := by
    intro b hb
    rw [List.map_append, List.nodup_append] at distinct
    exact distinct.2.2 _ (List.mem_map_of_mem hb) _ List.mem_cons_self
  have hself : (c :: after).find? (fun b => b.isCalled c.name) = some c :=
    List.find?_cons_of_pos (Condition.isCalled_iff.2 (.inl rfl))
  rw [List.find?_append, hself]
  cases hfind : before.find? fun b => b.isCalled c.name with
  | none =>
    refine ⟨c, rfl, iff_of_true rfl fun b hb hends => ?_⟩
    exact List.find?_eq_none.1 hfind b hb (Condition.isCalled_iff.2 (.inr hends))
  | some b =>
    have hb : b ∈ before := List.mem_of_find?_eq_some hfind
    have hcalled := List.find?_some hfind
    have hends : b.EndsIn c.name := (Condition.isCalled_iff.1 hcalled).resolve_left (hother b hb)
    refine ⟨b, rfl, iff_of_false ?_ fun h => h b hb hends⟩
    rintro rfl
    exact hother b hb rfl

/-- Where no name ends in that of a condition, it is the first that is called so in any order. -/
theorem find?_isCalled_of_perm {conditions others : List (Condition κ)} {c : Condition κ} (hc : c ∈ conditions)
    (distinct : (conditions.map Condition.name).Nodup) (hends : ∀ b ∈ conditions, ¬b.EndsIn c.name)
    (h : others.Perm conditions) : (others.find? fun b => b.isCalled c.name) = some c := by
  obtain ⟨before, after, rfl⟩ := List.append_of_mem (h.mem_iff.2 hc)
  obtain ⟨first, hfind, hfirst⟩ := find?_isCalled_name ((h.map _).nodup_iff.2 distinct)
  rw [hfind, hfirst.2 fun b hb => hends b (h.mem_iff.1 (List.mem_append_left _ hb))]

namespace Resolution

variable [Cost κ] {r : Resolution κ} {history : List String} {s : Session World} {c : Condition κ}

/-! ## Asking for conditions -/

/-- Asking for a name evaluates a condition: the answer is what the evaluation comes to, and its evaluators run. -/
structure AskEvaluates (r : Resolution κ) (history : List String) (s : Session World) (n : Name)
    (c : Condition κ) : Prop where
  answer : (((r.resolver history).ask n).outcome s).1 = (c.evaluate ⟨s.world.blackboard, history⟩).result
  ran : (((r.resolver history).ask n).outcome s).2.world.ran =
    s.world.ran ++ (c.evaluate ⟨s.world.blackboard, history⟩).ran

theorem askEvaluates_of_ofName {n : Name} (h : Query.ofName r.conditions n.shown = .named c) :
    r.AskEvaluates history s n c := by
  have hread : r.read history s.world false n.shown = r.answer history s.world false n.shown (.named c) := by
    rw [read, h]
  have hearly : false = true → r.defers c = false := fun h => absurd h Bool.false_ne_true
  constructor
  · show ((r.determine history false n).outcome s).1 = _
    rw [outcome_determine, hread, ← result_answer_named hearly]
  · show ((r.determine history false n).outcome s).2.world.ran = _
    rw [outcome_determine, hread, ← ran_answer_named hearly]
    rfl

/-- Where names ask for the same, asking comes to the same. -/
theorem outcome_ask_congr (d : Domain κ) (limit : Option κ) {conditions others : List (Condition κ)} {n : Name}
    (h : Query.ofName others n.shown = Query.ofName conditions n.shown) :
    (((ofDomain d others limit).resolver history).ask n).outcome s =
      (((ofDomain d conditions limit).resolver history).ask n).outcome s := by
  have hread : (ofDomain d others limit).read history s.world false n.shown =
      (ofDomain d conditions limit).read history s.world false n.shown := by
    show (ofDomain d others limit).answer _ _ _ _ (.ofName others n.shown) = _
    rw [h]
    show _ = (ofDomain d conditions limit).answer _ _ _ _ (.ofName conditions n.shown)
    cases Query.ofName conditions n.shown <;> rfl
  show ((ofDomain d others limit).determine history false n).outcome s =
    ((ofDomain d conditions limit).determine history false n).outcome s
  rw [outcome_determine, outcome_determine, hread]

/-- What a condition's own name asks for. Let conditions of different names be registered, and one of them have a name
without a colon that is not that of an action's run. Asking for its name evaluates the first condition that is called
so, which is the condition itself just if no name registered before it ends in a point and this name. If no registered
name does, asking comes to the same whatever the order of registration. -/
theorem ask_named (d : Domain κ) (limit : Option κ) (history : List String) (s : Session World)
    (before after : List (Condition κ)) (c : Condition κ)
    (distinct : ((before ++ c :: after).map Condition.name).Nodup) (hcolon : ':' ∉ c.name.toList)
    (hrun : ¬(hasRun "").toList <+: c.name.toList) :
    (∃ first, ((before ++ c :: after).find? fun b => b.isCalled c.name) = some first ∧
      (ofDomain d (before ++ c :: after) limit).AskEvaluates history s c.name first ∧
      (first = c ↔ ∀ b ∈ before, ¬b.EndsIn c.name)) ∧
    ((∀ b ∈ before ++ c :: after, ¬b.EndsIn c.name) → ∀ others : List (Condition κ),
      others.Perm (before ++ c :: after) →
        (ofDomain d others limit).AskEvaluates history s c.name c ∧
        (((ofDomain d others limit).resolver history).ask c.name).outcome s =
          (((ofDomain d (before ++ c :: after) limit).resolver history).ask c.name).outcome s) := by
  constructor
  · obtain ⟨first, hfind, hfirst⟩ := find?_isCalled_name distinct
    exact ⟨first, hfind, askEvaluates_of_ofName (Query.ofName_of_find? hcolon hrun hfind), hfirst⟩
  · intro hends others hperm
    have hc : c ∈ before ++ c :: after := List.mem_append_right _ List.mem_cons_self
    have hofName {conditions : List (Condition κ)} (h : conditions.Perm (before ++ c :: after)) :
        Query.ofName conditions c.name = .named c :=
      Query.ofName_of_find? hcolon hrun (find?_isCalled_of_perm hc distinct hends h)
    exact ⟨askEvaluates_of_ofName (hofName hperm),
      outcome_ask_congr d limit ((hofName hperm).trans (hofName (.refl _)).symm)⟩

/-- The session in which nothing has happened yet. -/
def outset : Session World := ⟨.empty, #[]⟩

namespace Street

/-! A shop is open, a house at the same place is not, and it has a gate. -/

def house : Condition Rat := .computed "house.open" 0 fun _ => .ok (.bool false)

def shop : Condition Rat := .computed "open" 0 fun _ => .ok (.bool true)

def gate : Condition Rat := .computed "gate" 0 fun _ => .ok (.bool false)

def place : Domain Rat := ⟨[], [], List.nodup_nil, List.nodup_nil⟩

end Street

open Street in
/-- The shop is found open although the house is registered after it, and in any order without the house. -/
theorem ask_named_shop :
    ((((ofDomain place [gate, shop, house] none).resolver []).ask "open").outcome outset).1 = .ok .yes ∧
      (((ofDomain place [shop, gate] none).resolver []).ask "open").outcome outset =
        (((ofDomain place [gate, shop] none).resolver []).ask "open").outcome outset := by
  have hgate : ¬gate.EndsIn shop.name := by decide
  have hshop : ¬shop.EndsIn shop.name := by decide
  have hcolon : ':' ∉ shop.name.toList := by decide
  have hrun : ¬(hasRun "").toList <+: shop.name.toList := by decide
  constructor
  · obtain ⟨⟨first, -, hasks, hfirst⟩, -⟩ := ask_named place none [] outset [gate] [house] shop (by decide) hcolon hrun
    cases hfirst.2 (by simpa using hgate)
    exact hasks.answer
  · obtain ⟨-, hsame⟩ := ask_named place none [] outset [gate] [] shop (by decide) hcolon hrun
    exact (hsame (by simpa using ⟨hgate, hshop⟩) [shop, gate] (.swap ..)).2

open Street in
/-- Registered before the shop, the house hides it: what is asked for by the shop's own name is whether the house is
open, and the answer depends on the order. -/
theorem ask_named_hidden :
    ([house, shop].map Condition.name).Nodup ∧ house.name = "house.open" ∧ shop.name = "open" ∧
      ((((ofDomain place [house, shop] none).resolver []).ask "open").outcome outset).1 = .ok .no ∧
      ((((ofDomain place [house, shop] none).resolver []).ask "open").outcome outset).2.world.ran = ["house.open"] ∧
      ((((ofDomain place [shop, house] none).resolver []).ask "open").outcome outset).1 = .ok .yes := by
  have hcolon : ':' ∉ shop.name.toList := by decide
  have hrun : ¬(hasRun "").toList <+: shop.name.toList := by decide
  have hhouse : (ofDomain place [house, shop] none).AskEvaluates [] outset shop.name house :=
    askEvaluates_of_ofName (Query.ofName_of_find? hcolon hrun
      (List.find?_cons_of_pos (Condition.isCalled_iff.2 (.inr ⟨"house".toList, by decide⟩))))
  have hshop : (ofDomain place [shop, house] none).AskEvaluates [] outset shop.name shop :=
    askEvaluates_of_ofName (Query.ofName_of_find? hcolon hrun
      (List.find?_cons_of_pos (Condition.isCalled_iff.2 (.inl rfl))))
  exact ⟨by decide, rfl, rfl, hhouse.answer, hhouse.ran, hshop.answer⟩

/-! ## Supplying states -/

/-- The condition that is evaluated when a name is read for a state. -/
def evaluatedEarly? (r : Resolution κ) (name : String) : Option (Condition κ) :=
  match Query.ofName r.conditions name with
  | .named c => if r.defers c then none else some c
  | _ => none

theorem mem_of_evaluatedEarly? {name : String} (h : r.evaluatedEarly? name = some c) :
    c ∈ r.conditions ∧ r.defers c = false := by
  unfold evaluatedEarly? at h
  split at h
  · rename_i b hb
    split at h
    · cases h
    · rename_i hdefers
      cases h
      exact ⟨Query.mem_of_ofName hb, Bool.eq_false_iff.2 hdefers⟩
  · cases h

theorem ran_read_early (r : Resolution κ) (history : List String) (w : World) (name : String) :
    (r.read history w true name).ran =
      (r.evaluatedEarly? name).toList.flatMap fun c => (c.evaluate ⟨w.blackboard, history⟩).ran := by
  rw [read, evaluatedEarly?]
  cases Query.ofName r.conditions name with
  | named c =>
    cases hdefers : r.defers c with
    | true => simp [answer, hdefers]
    | false => simp [ran_answer_named fun _ => hdefers, hdefers]
  | _ => rfl

/-- Names are read for a state by evaluating the conditions that they ask for, in turn and as far as nothing fails. -/
theorem exists_ran_determineAll (r : Resolution κ) (history : List String) (names : List Name) (s : Session World) :
    ∃ cs : List (Condition κ), cs <+: names.filterMap (fun n => r.evaluatedEarly? n.shown) ∧
      ((r.determineAll history names).outcome s).2.world.ran =
        s.world.ran ++ cs.flatMap fun c => (c.evaluate ⟨s.world.blackboard, history⟩).ran := by
  induction names generalizing s with
  | nil => exact ⟨[], List.nil_prefix, (List.append_nil _).symm⟩
  | cons n names ih =>
    -- the first name is read, whether or not that fails, and the others as on the same blackboard
    obtain ⟨u, hu, hworld⟩ : ∃ u,
        (r.determine history true n).outcome s = ((r.read history s.world true n.shown).result, u) ∧
          u.world = s.world.after (r.read history s.world true n.shown) := ⟨_, outcome_determine n, rfl⟩
    have hran : u.world.ran = s.world.ran ++ (r.evaluatedEarly? n.shown).toList.flatMap fun c =>
        (c.evaluate ⟨s.world.blackboard, history⟩).ran := by
      rw [hworld, ← ran_read_early]
      rfl
    have hboard : u.world.blackboard = s.world.blackboard := by rw [hworld]; rfl
    rw [List.filterMap_eq_flatMap_toList, List.flatMap_cons, ← List.filterMap_eq_flatMap_toList, determineAll]
    cases hresult : (r.read history s.world true n.shown).result with
    | error f =>
      rw [hresult] at hu
      refine ⟨(r.evaluatedEarly? n.shown).toList, List.prefix_append _ _, ?_⟩
      rw [Effect.outcome_bind_of_error hu, hran]
    | ok t =>
      rw [hresult] at hu
      obtain ⟨cs, hcs, hrest⟩ := ih u
      refine ⟨(r.evaluatedEarly? n.shown).toList ++ cs, (List.prefix_append_right_inj _).2 hcs, ?_⟩
      rw [Effect.outcome_bind_of_ok hu, Effect.session_bind_pure, hrest, hboard, hran, List.flatMap_append,
        List.append_assoc]

/-- Which evaluators run for a state. Where registered conditions come down to evaluators, supplying a state evaluates
some of them, and each of these has an evaluator that costs no more than the limit. So an evaluator that costs more does
not run where it is registered by itself, nor in a condition all of whose evaluators cost more. -/
theorem ran_state (d : Domain κ) {conditions : List (Condition κ)} (built : ∀ c ∈ conditions, c.Built) (limit : κ)
    (history : List String) (s : Session World) :
    ∃ cs : List (Condition κ),
      ((((ofDomain d conditions (some limit)).resolver history).state.outcome s).2.world.ran =
        s.world.ran ++ cs.flatMap fun c => (c.evaluate ⟨s.world.blackboard, history⟩).ran) ∧
      ∀ c ∈ cs, c ∈ conditions ∧ (c.evaluate ⟨s.world.blackboard, history⟩).ran.Sublist (c.leaves.map Prod.fst) ∧
        ∃ leaf ∈ c.leaves, ¬limit < leaf.2 := by
  obtain ⟨cs, hcs, hran⟩ :=
    exists_ran_determineAll (ofDomain d conditions (some limit)) history (Name.sort d.conditions) s
  refine ⟨cs, ?_, fun c hc => ?_⟩
  · rw [← hran, resolver, Effect.session_bind_pure]
    rfl
  · obtain ⟨n, -, hn⟩ := List.mem_filterMap.1 (hcs.subset hc)
    obtain ⟨hmem, hdefers⟩ := mem_of_evaluatedEarly? hn
    obtain ⟨leaf, hleaf, hcost⟩ := Condition.exists_leaf_cost_eq (built c hmem)
    refine ⟨hmem, Condition.sublist_ran_evaluate c _, leaf, hleaf, ?_⟩
    rw [hcost]
    exact of_decide_eq_false hdefers

namespace Storm

/-! Reading the forecast costs nothing, surveying the harbour costs something; the forecast and the survey are fine. -/

def forecast : Condition Rat := .computed "forecast" 0 fun _ => .ok (.bool true)

def survey : Condition Rat := .computed "survey" 1 fun _ => .ok (.bool true)

def both : Condition Rat := .and forecast survey

/-- Whoever sails wants some conditions to hold. -/
def sailing (names : List Name) : Domain Rat :=
  ⟨[], [⟨"sail", .uniform names .yes, 0, "", by decide⟩], List.nodup_nil, List.nodup_singleton _⟩

end Storm

open Storm in
/-- The survey is not made for a state, neither for its own sake nor for its negation. -/
theorem ran_state_survey :
    (((ofDomain (sailing ["survey", "!survey"]) [survey, survey.not] (some 0)).resolver []).state.outcome
      outset).2.world.ran = [] := by
  have built : ∀ c ∈ [survey, survey.not], c.Built := by
    simpa using ⟨Condition.Built.computed .., .not (.computed ..)⟩
  obtain ⟨cs, hran, hcs⟩ := ran_state (sailing ["survey", "!survey"]) built 0 [] outset
  have hnone : cs = [] := by
    refine List.eq_nil_iff_forall_not_mem.2 fun c hc => ?_
    obtain ⟨hmem, -, leaf, hleaf, hcost⟩ := hcs c hc
    have hsurvey : leaf = ("survey", 1) := by
      simp only [List.mem_cons, List.not_mem_nil, or_false] at hmem
      rcases hmem with rfl | rfl <;> simpa [survey, Condition.leaves] using hleaf
    rw [hsurvey] at hcost
    exact hcost (by decide)
  rw [hran, hnone]
  rfl

open Storm in
/-- Beside the forecast the survey is made for a state, though it costs more than the limit. -/
theorem ran_state_beside :
    (0 : Rat) < survey.cost ∧ both.Built ∧
      (((ofDomain (sailing [both.name]) [both] (some 0)).resolver []).state.outcome outset).2.world.ran =
        ["forecast", "survey"] := by
  refine ⟨by decide, .and (.computed ..) (.computed ..), ?_⟩
  have hknown : (ofDomain (sailing [both.name]) [both] (some 0)).known = [.text both.name] := by
    show Name.sort [.text both.name] = _
    rw [Name.sort, List.mergeSort_singleton]
  have hname : Query.ofName [both] both.name = .named both :=
    Query.ofName_of_find? (by decide) (by decide) (List.find?_cons_of_pos (Condition.isCalled_iff.2 (.inl rfl)))
  have hread : (ofDomain (sailing [both.name]) [both] (some 0)).read [] .empty true both.name =
      ⟨.ok .yes, ["forecast", "survey"], .empty, [found "named" both.name .yes]⟩ := by
    show answer _ [] .empty true both.name (Query.ofName [both] both.name) = _
    rw [hname]
    rfl
  have hstep : ((ofDomain (sailing [both.name]) [both] (some 0)).determine [] true (.text both.name)).outcome outset =
      (.ok .yes, ⟨⟨.empty, .empty, ["forecast", "survey"]⟩, #[found "named" both.name .yes]⟩) :=
    (outcome_determine _).trans
      (congrArg (fun x : Reading => (x.result, Session.mk (World.empty.after x) (#[] ++ x.records.toArray))) hread)
  rw [resolver, Effect.session_bind_pure, hknown]
  show (((ofDomain (sailing [both.name]) [both] (some 0)).determine [] true (.text both.name) >>= _).outcome
    outset).2.world.ran = _
  rw [Effect.outcome_bind_of_ok hstep]
  rfl

end Resolution

end GoalPlanner
