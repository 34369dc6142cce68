import GoalPlanner.Proofs.Plan.Fixed
import GoalPlanner.Proofs.Query
import GoalPlanner.Proofs.World
import Mathlib

/-!
# Conditions that are flags

Where every condition of a domain is a flag of the blackboard (`IsFlag`), the state that a world supplies is what the
flags say (`Domain.seen`, `Domain.fixed_seen`), and nothing is left open. If an action is carried out by setting its
effects as flags (`SetsFlags`), the state that is read afterwards is the one that the action is expected to lead to
(`Domain.get?_seen_apply`).
-/

namespace GoalPlanner

/-! ## Names of flags -/

section

variable {κ : Type}

/-- A condition that is a flag: a text without a colon that does not begin like the condition of an action that has run,
and that none of the registered conditions is called by. -/
structure IsFlag (conditions : List (Condition κ)) (n : Name) (key : String) : Prop where
  text : n = .text key
  plain : ':' ∉ key.toList
  notRun : (hasRun "").toList.isPrefixOf key.toList = false
  unnamed : ∀ c ∈ conditions, c.isCalled key = false

variable {conditions : List (Condition κ)} {n : Name} {key : String}

theorem IsFlag.shown (h : IsFlag conditions n key) : n.shown = key := by
  rw [h.text]
  rfl

namespace Query

/-- The name of a flag asks for the flag. -/
theorem ofName_flag (h : IsFlag conditions n key) : ofName conditions n.shown = flag key := by
  have hfind : (conditions.find? fun c => c.isCalled key) = none :=
    List.find?_eq_none.2 fun c hc => by simp [h.unnamed c hc]
  rw [h.shown, ofName, splitAtColon?_eq_none h.plain]
  simp only [ranAction?_eq_none h.notRun, hfind]

end Query

end

/-! ## What flags say -/

/-- What the flags say of a condition: a flag that was never set says no. -/
def Blackboard.truth (b : Blackboard) (n : Name) : Truth := (Truth.ofOption (b.flags.get? n.shown)).definite

theorem Truth.definite_ne_unknown (t : Truth) : t.definite ≠ .unknown := by
  cases t <;> simp [definite]

namespace Domain

variable {κ : Type} [Cost κ] {d : Domain κ} {b : Blackboard} {n : Name}

/-- The state of the conditions of a domain by the flags. -/
def seen (d : Domain κ) (b : Blackboard) : Facts := Facts.ofNames (Name.sort d.conditions) b.truth

theorem nodup_conditions (d : Domain κ) : d.conditions.Nodup := nodup_eraseDups _

theorem get?_seen : (d.seen b).get? n = if n ∈ d.conditions then some (b.truth n) else none := by
  refine Option.ext fun v => ?_
  rw [seen, Facts.get?_ofNames (Name.nodup_sort d.nodup_conditions), Name.mem_sort]
  split <;> simp_all

theorem unknowns_seen : (d.seen b).unknowns = [] := by
  refine Facts.unknowns_eq_nil fun n hn => ?_
  rw [get?_seen] at hn
  split at hn
  · exact Truth.definite_ne_unknown _ (Option.some.inj hn)
  · cases hn

/-- The conditions of a domain are those that its actions require or bring about and those that its goals require. -/
theorem mem_conditions : n ∈ d.conditions ↔
    (∃ a ∈ d.actions, n ∈ a.pre.keys) ∨ (∃ a ∈ d.actions, n ∈ a.eff.keys) ∨ ∃ g ∈ d.goals, n ∈ g.pre.keys := by
  simp only [conditions, required, affected, List.mem_eraseDups, List.mem_append, List.mem_flatMap, or_assoc]

theorem mem_conditions_of_eff {a : Action κ} (ha : a ∈ d.actions) (hn : n ∈ a.eff.keys) : n ∈ d.conditions :=
  mem_conditions.2 (.inr (.inl ⟨a, ha, hn⟩))

variable {conditions : List (Condition κ)}

/-- Where all conditions are flags, every world with one blackboard supplies what its flags say. -/
theorem fixed_seen (h : ∀ n ∈ d.conditions, ∃ key, IsFlag conditions n key) (deferAbove : Option κ)
    (history : List String) (b : Blackboard) :
    ((Resolution.ofDomain d conditions deferAbove).resolver history).Fixed (fun w => w.blackboard = b) (d.seen b)
      fun _ => .no where
  state s hs := by
    have hread : ∀ n ∈ (Resolution.ofDomain d conditions deferAbove).known,
        ((Resolution.ofDomain d conditions deferAbove).read history s.world true n.shown).result = .ok (b.truth n) := by
      intro n hn
      obtain ⟨key, hkey⟩ := h n (Name.mem_sort.1 hn)
      rw [Resolution.read, Resolution.ofDomain, Query.ofName_flag hkey, Resolution.answer, Blackboard.truth, hs,
        hkey.shown]
    obtain ⟨t, ht, hlike⟩ := Resolution.outcome_state hread
    exact ⟨t, hlike.blackboard.trans hs, ht⟩
  ask s c _ hc := absurd hc (Facts.ne_unknown_of_unknowns_eq_nil unknowns_seen c)

end Domain

/-! ## Actions that set flags -/

section

variable {κ τ : Type} [Cost κ]

/-- An action is carried out by setting the flags of its effects; the other flags stay, and it never fails. -/
def SetsFlags (execute : Action κ → Effect (World × τ) Unit) (a : Action κ) : Prop :=
  ∀ s, ∃ t, (execute a).outcome s = (.ok (), t) ∧ ∀ key : String, t.world.1.blackboard.flags.get? key =
    ((a.eff.get? key).map fun v => v == .yes).or (s.world.1.blackboard.flags.get? key)

/-- Where flags are set as an action is expected to have them set, they say what the action is expected to lead to. -/
theorem Domain.get?_seen_apply {d : Domain κ} {conditions : List (Condition κ)}
    (h : ∀ n ∈ d.conditions, ∃ key, IsFlag conditions n key) {a : Action κ} (ha : a ∈ d.actions)
    (hdef : ∀ n, a.eff.get? n ≠ some .unknown) {b c : Blackboard}
    (hflags : ∀ key : String, c.flags.get? key = ((a.eff.get? key).map fun v => v == .yes).or (b.flags.get? key))
    (n : Name) : (a.apply (d.seen b)).get? n = (d.seen c).get? n := by
  rw [Action.apply, Table.get?_merge, get?_seen, get?_seen]
  by_cases hn : n ∈ d.conditions
  · obtain ⟨key, hkey⟩ := h n hn
    rw [if_pos hn, if_pos hn, Blackboard.truth, Blackboard.truth, hkey.shown, hflags key, ← hkey.text]
    cases he : a.eff.get? n with
    | none => rfl
    | some v => cases v with
      | yes | no => rfl
      | unknown => exact absurd he (hdef n)
  · rw [if_neg hn, if_neg hn, Table.get?_eq_none_iff.2 fun hk => hn (mem_conditions_of_eff ha hk)]
    rfl

end

end GoalPlanner
