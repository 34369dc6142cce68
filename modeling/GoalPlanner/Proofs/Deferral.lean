import GoalPlanner.Proofs.Plan.Choice
import GoalPlanner.Proofs.Query
import GoalPlanner.Proofs.World
import Mathlib

/-!
# Evaluations that wait

An evaluation that is put off leaves its condition open (`result_read_early`), and asking for the condition makes up for
it (`result_read_late`). So the state of a world in which some evaluations wait differs from the one in which none does
only in conditions that it leaves open (`outcome_states`). Where it leaves one open, planning follows a variant of its
state whether it asks or not (`outcome_planToGoal_variant`), and deferral does not change the plan
(`planToGoal_deferred`).
-/

namespace GoalPlanner

/-! ## Readings -/

namespace Resolution

variable {κ : Type} [Cost κ]

/-- The resolution in which no evaluation waits. -/
def eager (r : Resolution κ) : Resolution κ := { r with deferAbove := none }

variable {r : Resolution κ} {history : List String} {w : World} {early : Bool} {name : String}

/-- A condition that is asked for is read as if no evaluation waited. -/
theorem result_read_late (r : Resolution κ) (history : List String) (w : World) (name : String) :
    (r.read history w false name).result = (r.eager.read history w true name).result := by
  show (r.answer history w false name (.ofName r.conditions name)).result =
    (r.eager.answer history w true name (.ofName r.conditions name)).result
  cases Query.ofName r.conditions name with
  | named c =>
    have hlate : (r.answer history w false name (.named c)).result = _ := result_answer_named nofun
    rw [hlate, result_answer_named fun _ => rfl]
  | _ => rfl

/-- A condition is left open, or read as if no evaluation waited. -/
theorem result_read_early (r : Resolution κ) (history : List String) (w : World) (name : String) :
    (r.read history w true name).result = .ok .unknown ∨
      (r.read history w true name).result = (r.eager.read history w true name).result := by
  show (r.answer history w true name (.ofName r.conditions name)).result = .ok .unknown ∨
    (r.answer history w true name (.ofName r.conditions name)).result =
      (r.eager.answer history w true name (.ofName r.conditions name)).result
  cases Query.ofName r.conditions name with
  | named c =>
    cases hd : r.defers c with
    | true =>
      left
      simp [answer, hd]
    | false =>
      right
      rw [result_answer_named fun _ => hd, result_answer_named fun _ => rfl]
  | _ => exact .inr rfl

/-- Every condition can be read if those with evaluators can be evaluated. -/
theorem exists_result_read (h : ∀ c ∈ r.conditions, ∃ t, (c.evaluate ⟨w.blackboard, history⟩).result = .ok t)
    (early : Bool) (name : String) : ∃ t, (r.read history w early name).result = .ok t := by
  rw [read]
  cases hq : Query.ofName r.conditions name with
  | named c =>
    by_cases hwait : early = true ∧ r.defers c = true
    · exact ⟨.unknown, by simp [answer, hwait]⟩
    · rw [result_answer_named fun hearly => Bool.eq_false_iff.2 fun hdefers => hwait ⟨hearly, hdefers⟩]
      exact h c (Query.mem_of_ofName hq)
  | _ => exact ⟨_, rfl⟩

variable {s t : Session World}

/-- From worlds that answer alike, the state in which some evaluations wait says of each condition that it is not known
or what the state in which none waits says; and that is what asking for it gives in any such world. -/
theorem outcome_states (hst : t.world.Alike s.world)
    (h : ∀ c ∈ r.conditions, ∃ v, (c.evaluate ⟨s.world.blackboard, history⟩).result = .ok v) :
    ∃ (f g : Name → Truth) (s' t' : Session World),
      (r.eager.resolver history).state.outcome s = (.ok (Facts.ofNames r.known f), s') ∧
      (r.resolver history).state.outcome t = (.ok (Facts.ofNames r.known g), t') ∧
      (∀ n, g n = .unknown ∨ g n = f n) ∧
      ∀ n (u : Session World), u.world = t'.world → (((r.resolver history).ask n).outcome u).1 = .ok (f n) := by
  choose f hf using fun n : Name => exists_result_read (r := r.eager) h true n.shown
  choose g hg using fun n : Name => exists_result_read (r := r) h true n.shown
  obtain ⟨s', hs, -⟩ := outcome_state (r := r.eager) fun n _ => hf n
  obtain ⟨t', ht, hlike⟩ := outcome_state (r := r) (s := t) fun n _ => (result_read_congr hst).trans (hg n)
  refine ⟨f, g, s', t', hs, ht, fun n => ?_, fun n u hu => ?_⟩
  · have hn := result_read_early r history s.world n.shown
    rw [hf, hg] at hn
    simpa using hn
  · show ((r.determine history false n).outcome u).1 = .ok (f n)
    rw [outcome_determine, hu, ← hf n, ← result_read_late]
    exact result_read_congr (hlike.trans hst)

end Resolution

/-! ## Planning over a variant -/

section Planning

variable {σ κ : Type} [Cost κ] {r q : Resolver σ} {o : Options} {actions : List (Action κ)} {g : Goal κ}
  {s t s' t' : Session σ} {start : Facts} {c : Name} {v : Truth}

/-- Planning from a state in which everything is known asks nothing. -/
theorem outcome_planToGoal_known (h : r.state.outcome s = (.ok start, t)) (hu : start.unknowns = []) (o : Options)
    (actions : List (Action κ)) (g : Goal κ) :
    ((planToGoal r o actions g).outcome s).1 = .ok (plan? o start actions g) ∧ asked r o actions g s = [] := by
  rw [asked_eq h, outcome_planToGoal h, verdict_of_known hu]
  exact ⟨rfl, rfl⟩

theorem outcome_conclude_ask (h : ((r.ask c).outcome s).1 = .ok v) :
    ((conclude r o start actions g (.ask c)).outcome s).1 = .ok (plan? o (start.set c v) actions g) := by
  have hask : (r.ask c).outcome s = (.ok v, ((r.ask c).outcome s).2) := by rw [← h]
  rw [conclude, Effect.outcome_bind_of_ok hask]
  rfl

/-- A resolver that leaves just one condition open leads to the plan of the resolver that knows what asking would have
given, whether it is asked or not. -/
theorem outcome_planToGoal_variant (hd : (actions.map Action.name).Nodup) (hr : r.state.outcome t = (.ok start, t'))
    (hq : q.state.outcome s = (.ok (start.set c v), s')) (hu : start.unknowns = [c])
    (hu' : Facts.unknowns (start.set c v) = []) (hv : v ≠ .unknown)
    (hask : ∀ u : Session σ, u.world = t'.world → ((r.ask c).outcome u).1 = .ok v) :
    ∃ x y, ((planToGoal q o actions g).outcome s).1 = .ok x ∧ ((planToGoal r o actions g).outcome t).1 = .ok y ∧
      x.map Plan.actions = y.map Plan.actions ∧ (asked r o actions g t = [] ∨ asked r o actions g t = [c]) := by
  refine ⟨plan? o (start.set c v) actions g, ?_⟩
  by_cases ha : Agree o start c actions g
  · refine ⟨plan? o start actions g, (outcome_planToGoal_known hq hu' o actions g).1, ?_, ?_, .inl ?_⟩
    · rw [outcome_planToGoal hr, verdict_of_agree hu ha]
      rfl
    · have hs : (plan? o (start.set c v) actions g).map Plan.shape = (plan? o start actions g).map Plan.shape :=
        ha _ (List.mem_cons_of_mem _ (Facts.mem_variants_of_ne_unknown hv)) _ List.mem_cons_self
      exact map_actions_eq_of_map_shape_eq hd hs
    · rw [asked_eq hr, verdict_of_agree hu ha]
      rfl
  · refine ⟨plan? o (start.set c v) actions g, (outcome_planToGoal_known hq hu' o actions g).1, ?_, rfl, .inr ?_⟩
    · rw [outcome_planToGoal hr, verdict_of_differ hu ha]
      exact outcome_conclude_ask (hask _ rfl)
    · rw [asked_eq hr, verdict_of_differ hu ha]
      rfl

end Planning

/-! ## Deferral -/

section Deferral

variable {κ : Type} [Cost κ]

/-- Facts about some names that leave one open become others by setting it if they agree with these elsewhere. -/
theorem Facts.set_of_open {ns : List Name} {f g : Name → Truth} {c : Name} (hd : ns.Nodup) (hc : c ∈ ns)
    (hg : ∀ n, g n = .unknown ∨ g n = f n) (hone : ∀ n ∈ ns, g n = .unknown → n = c) :
    (ofNames ns g).set c (f c) = ofNames ns f := by
  rw [set_ofNames hd hc]
  refine ofNames_congr fun n hn => ?_
  split
  · rename_i h
    rw [h]
  · rename_i h
    exact (hg n).resolve_left fun hu => h (hone n hn hu)

/-- Deferral does not change plans. Two resolutions of the conditions of a domain, one in which no evaluation waits and
one with any limit, from worlds that answer alike, both supply a state if the conditions with evaluators can be
evaluated. If then the first state knows everything and the second leaves at most one condition open, planning to any
goal comes to the same actions or to no plan over both, and over the second it asks at most once, and only for the
condition left open. -/
theorem planToGoal_deferred (d : Domain κ) (conditions : List (Condition κ)) (limit : Option κ) (history : List String)
    (s t : Session World) (hst : t.world.Alike s.world)
    (answers : ∀ c ∈ conditions, ∃ v, (c.evaluate ⟨s.world.blackboard, history⟩).result = .ok v) :
    ∃ known left : Facts,
      (((Resolution.ofDomain d conditions none).resolver history).state.outcome s).1 = .ok known ∧
      (((Resolution.ofDomain d conditions limit).resolver history).state.outcome t).1 = .ok left ∧
      ((∀ n, known.get? n ≠ some .unknown) →
        (∀ m n, left.get? m = some .unknown → left.get? n = some .unknown → m = n) →
        ∀ (o : Options) (g : Goal κ), ∃ p q,
          ((planToGoal ((Resolution.ofDomain d conditions none).resolver history) o d.actions g).outcome s).1 = .ok p ∧
          ((planToGoal ((Resolution.ofDomain d conditions limit).resolver history) o d.actions g).outcome t).1 =
            .ok q ∧
          p.map Plan.actions = q.map Plan.actions ∧
          (asked ((Resolution.ofDomain d conditions limit).resolver history) o d.actions g t = [] ∨
            ∃ c, left.get? c = some .unknown ∧
              asked ((Resolution.ofDomain d conditions limit).resolver history) o d.actions g t = [c])) := by
  obtain ⟨f, g, s', t', hs, ht, hfg, hask⟩ :=
    Resolution.outcome_states (r := .ofDomain d conditions limit) hst answers
  have hd : (Name.sort d.conditions).Nodup := Name.nodup_sort (nodup_eraseDups _)
  refine ⟨_, _, congrArg Prod.fst hs, congrArg Prod.fst ht, fun hknown hone o goal => ?_⟩
  have hu : (Facts.ofNames (Name.sort d.conditions) f).unknowns = [] := Facts.unknowns_eq_nil hknown
  by_cases hopen : ∃ c, (Facts.ofNames (Name.sort d.conditions) g).get? c = some .unknown
  · obtain ⟨c, hc⟩ := hopen
    have hmem : c ∈ Name.sort d.conditions := ((Facts.get?_ofNames hd).1 hc).1
    have hv : f c ≠ .unknown := fun h => hknown c ((Facts.get?_ofNames hd).2 ⟨hmem, h⟩)
    have hset : (Facts.ofNames (Name.sort d.conditions) g).set c (f c) = Facts.ofNames (Name.sort d.conditions) f :=
      Facts.set_of_open hd hmem hfg fun n hn h => hone n c ((Facts.get?_ofNames hd).2 ⟨hn, h⟩) hc
    have huc : (Facts.ofNames (Name.sort d.conditions) g).unknowns = [c] :=
      Facts.unknowns_eq_singleton fun n => ⟨fun h => hone n c h hc, fun h => h ▸ hc⟩
    obtain ⟨x, y, hx, hy, hxy, hasked⟩ := outcome_planToGoal_variant (o := o) (g := goal) d.actionNames ht
      (hset.symm ▸ hs) huc (hset.symm ▸ hu) hv (hask c)
    exact ⟨x, y, hx, hy, hxy, hasked.imp_right fun h => ⟨c, hc, h⟩⟩
  · have hsame : Facts.ofNames (Name.sort d.conditions) g = Facts.ofNames (Name.sort d.conditions) f :=
      Facts.ofNames_congr fun n hn =>
        (hfg n).resolve_left fun h => hopen ⟨n, (Facts.get?_ofNames hd).2 ⟨hn, h⟩⟩
    obtain ⟨hp, -⟩ := outcome_planToGoal_known hs hu o d.actions goal
    obtain ⟨hq, hasked⟩ := outcome_planToGoal_known (hsame ▸ ht) hu o d.actions goal
    exact ⟨_, _, hp, hq, rfl, .inl hasked⟩

namespace Door

/-! Whoever looks for the key finds it. -/

def look : Condition Rat := .computed "k" 1 fun _ => .ok (.bool true)

theorem mem_conditions {n : Name} : n ∈ Name.sort domain.conditions ↔ n = "k" ∨ n = "d" := by
  simp [Domain.conditions, Domain.required, Domain.affected, domain, unlock, opened, Facts.uniform, Table.ofList,
    Table.setAll, Table.set, Table.put, Table.keys, Name.mem_sort]

/-- What is read of the key and the door while nothing stands on the blackboard. -/
theorem result_read {limit : Option Rat} {n : Name} (hn : n ∈ Name.sort domain.conditions) :
    ((Resolution.ofDomain domain [look] limit).read [] .empty true n.shown).result =
      .ok (if n = "d" then .no else if (Resolution.ofDomain domain [look] limit).defers look then .unknown else .yes) := by
  rcases mem_conditions.1 hn with rfl | rfl
  · have hkey : Query.ofName [look] "k" = .named look := by
      simp [Query.ofName, Query.splitAtColon?, Query.ranAction?, hasRun, Condition.isCalled, Condition.name, look]
    show ((Resolution.ofDomain domain [look] limit).answer [] .empty true "k" (Query.ofName [look] "k")).result = _
    rw [hkey, if_neg (by decide)]
    split
    · rename_i h
      simp [Resolution.answer, h]
    · rename_i h
      rw [Resolution.result_answer_named fun _ => Bool.eq_false_iff.2 h]
      rfl
  · have hdoor : Query.ofName [look] "d" = .flag "d" := by
      simp [Query.ofName, Query.splitAtColon?, Query.ranAction?, hasRun, Condition.isCalled, Condition.name, look]
      rfl
    show ((Resolution.ofDomain domain [look] limit).answer [] .empty true "d" (Query.ofName [look] "d")).result = _
    rw [hdoor]
    rfl

/-- The door is shut, and this is said of the key. -/
def shut (key : Truth) : Facts := Facts.ofNames (Name.sort domain.conditions) fun n => if n = "d" then .no else key

theorem get?_shut {key t : Truth} {n : Name} :
    (shut key).get? n = some t ↔ (n = "k" ∨ n = "d") ∧ (if n = "d" then .no else key) = t := by
  have hd : (Name.sort domain.conditions).Nodup := Name.nodup_sort (nodup_eraseDups _)
  rw [shut, Facts.get?_ofNames hd, mem_conditions]

/-- While nothing stands on the blackboard the door is shut, and the key is at hand unless looking for it waits. -/
theorem outcome_state (limit : Option Rat) (key : Truth)
    (hkey : (if (Resolution.ofDomain domain [look] limit).defers look then .unknown else .yes) = key) :
    ∃ t, ((Resolution.ofDomain domain [look] limit).resolver []).state.outcome ⟨.empty, #[]⟩ =
      (.ok (shut key), t) := by
  obtain ⟨t, ht, -⟩ := Resolution.outcome_state (r := .ofDomain domain [look] limit) (s := ⟨.empty, #[]⟩)
    fun n hn => result_read hn
  subst hkey
  exact ⟨t, ht⟩

/-- The plan depends on the key. -/
theorem not_agree : ¬Agree ⟨10, true⟩ (shut .unknown) "k" [unlock] opened := by
  intro ha
  have h := ha _ (.tail _ (.head _)) _ (.head _)
  rw [plan?_keyed, plan?_keyless] at h
  · cases h
  · rw [Ne, get?_shut]
    decide
  · rw [Ne, get?_shut]
    decide
  · rw [Table.get?_set, if_pos rfl]
  · rw [Table.get?_set, if_neg (by decide), Ne, get?_shut]
    decide

end Door

open Door in
/-- Looking for the key can wait without changing how the door is opened: it is unlocked, and just where looking waits
the key is asked for. -/
theorem planToGoal_deferred_door :
    ∃ p q,
      ((planToGoal ((Resolution.ofDomain domain [look] none).resolver []) ⟨10, true⟩ [unlock] opened).outcome
        ⟨.empty, #[]⟩).1 = .ok (some p) ∧
      ((planToGoal ((Resolution.ofDomain domain [look] (some 0)).resolver []) ⟨10, true⟩ [unlock] opened).outcome
        ⟨.empty, #[]⟩).1 = .ok (some q) ∧
      p.actions = [unlock] ∧ q.actions = [unlock] ∧
      asked ((Resolution.ofDomain domain [look] none).resolver []) ⟨10, true⟩ [unlock] opened ⟨.empty, #[]⟩ = [] ∧
      asked ((Resolution.ofDomain domain [look] (some 0)).resolver []) ⟨10, true⟩ [unlock] opened ⟨.empty, #[]⟩ =
        ["k"] := by
  obtain ⟨s, hs⟩ := outcome_state none .yes rfl
  obtain ⟨t, ht⟩ := outcome_state (some 0) .unknown (by decide)
  obtain ⟨known, left, hknown, hleft, h⟩ := planToGoal_deferred domain [look] (some 0) [] ⟨.empty, #[]⟩ ⟨.empty, #[]⟩
    (.refl _) (fun c hc => ⟨.yes, by rw [List.mem_singleton.1 hc]; rfl⟩)
  rw [hs] at hknown
  cases hknown
  rw [ht] at hleft
  cases hleft
  have hall (n : Name) : (shut .yes).get? n ≠ some .unknown := by
    rw [Ne, get?_shut]
    split <;> simp
  have hopen (n : Name) : (shut .unknown).get? n = some .unknown ↔ n = "k" := by
    rw [get?_shut]
    split <;> simp_all
  obtain ⟨p, q, hp, hq, hpq, hasked⟩ := h hall (fun m n hm hn => ((hopen m).1 hm).trans ((hopen n).1 hn).symm)
    ⟨10, true⟩ opened
  obtain ⟨hplan, hnone⟩ := outcome_planToGoal_known hs (Facts.unknowns_eq_nil hall) ⟨10, true⟩ [unlock] opened
  have hdoor : (shut .yes).get? "d" ≠ some .yes := by
    rw [Ne, get?_shut]
    decide
  rw [plan?_keyed (get?_shut.2 ⟨.inl rfl, rfl⟩) hdoor] at hplan
  cases hp.symm.trans hplan
  obtain ⟨q, rfl, hactions⟩ := Option.map_eq_some_iff.1 hpq.symm
  refine ⟨_, q, hp, hq, rfl, hactions, hnone, ?_⟩
  rcases hasked with hasked | ⟨c, hc, hasked⟩
  · have hask := verdict_of_differ (Facts.unknowns_eq_singleton hopen) not_agree
    rw [asked_eq ht, show domain.actions = [unlock] from rfl, hask] at hasked
    cases hasked
  · rw [(hopen c).1 hc] at hasked
    exact hasked

end Deferral

end GoalPlanner
