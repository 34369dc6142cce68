import GoalPlanner.Kind.Registry
import GoalPlanner.Value

/-!
# What a registry answers

A registry keeps names that it has found, but what it answers depends on what was registered only. After any calls in
turn, registrations and lookups, its capabilities are those that the calls registered
(`Registry.capabilities_afterAll`). So a kind then answers to the names of its lineage and to whatever was registered so
far for a kind of its lineage (`Registry.Entitled`, `Registry.lookup_afterAll`), whichever of its names were looked up
before and in whatever order the registrations came.
-/

namespace GoalPlanner.Registry

/-! ## Calls -/

/-- A call of a registry: a registration of capabilities, a lookup of all names of a kind, or the question whether a
value answers to a name. -/
inductive Call
  | register (k : Kind) (names : List String)
  | lookup (k : Kind)
  | answers (v : Value) (name : String)

/-- The capabilities that a call registers. -/
def Call.registered : Call → List (KindLabel × String)
  | register k names => names.map fun n => (k.label, n)
  | lookup _ | answers _ _ => []

/-- The registry after a call. -/
def after (r : Registry) : Call → Registry
  | .register k names => r.register k names
  | .lookup k => (r.lookup k).2
  | .answers v name => (r.answers v.kind name).2

/-- The registry after some calls in turn. -/
def afterAll (r : Registry) (calls : List Call) : Registry := calls.foldl after r

variable {calls : List Call} {k : Kind} {l : KindLabel} {name : String}

theorem Call.mem_registered {c : Call} :
    (l, name) ∈ c.registered ↔ ∃ j names, c = .register j names ∧ j.label = l ∧ name ∈ names := by
  cases c with
  | register j names =>
    simp only [registered, List.mem_map, Prod.mk.injEq, register.injEq]
    constructor
    · rintro ⟨_, hn, hl, rfl⟩
      exact ⟨j, names, ⟨rfl, rfl⟩, hl, hn⟩
    · rintro ⟨_, _, ⟨rfl, rfl⟩, hl, hn⟩
      exact ⟨name, hn, hl, rfl⟩
  | lookup _ => simp [registered]
  | answers _ _ => simp [registered]

/-- A registration adds capabilities, and lookups leave them as they are. -/
theorem capabilities_after (r : Registry) (c : Call) : (r.after c).capabilities = r.capabilities ++ c.registered := by
  cases c with
  | register k names => rfl
  | lookup k => rw [after, capabilities_lookup, Call.registered, List.append_nil]
  | answers v name =>
    show (r.lookup v.kind).2.capabilities = r.capabilities ++ []
    rw [capabilities_lookup, List.append_nil]

theorem capabilities_afterAll (r : Registry) (calls : List Call) :
    (r.afterAll calls).capabilities = r.capabilities ++ calls.flatMap Call.registered := by
  induction calls generalizing r with
  | nil => exact (List.append_nil _).symm
  | cons c calls ih =>
    show ((r.after c).afterAll calls).capabilities = _
    rw [ih, capabilities_after, List.append_assoc, List.flatMap_cons]

/-! ## Names -/

theorem mem_capabilitiesOf {capabilities : List (KindLabel × String)} :
    name ∈ capabilitiesOf capabilities l ↔ (l, name) ∈ capabilities := by
  simp only [capabilitiesOf, List.mem_map, List.mem_filter, beq_iff_eq]
  constructor
  · rintro ⟨_, ⟨h, rfl⟩, rfl⟩
    exact h
  · exact fun h => ⟨_, ⟨h, rfl⟩, rfl⟩

theorem mem_namesOf {capabilities : List (KindLabel × String)} :
    name ∈ namesOf capabilities k ↔
      ∃ l ∈ k.lineage, l ≠ Kind.root.label ∧ (name = l.name ∨ name = l.qualified ∨ (l, name) ∈ capabilities) := by
  simp only [namesOf, List.mem_flatMap, List.mem_filter, List.mem_cons, mem_capabilitiesOf, bne_iff_ne, and_assoc]

/-- What a kind should answer to after some calls: the simple and the qualified name of each kind of its lineage other
than the root, and each capability that one of the calls registered for such a kind. -/
def Entitled (calls : List Call) (k : Kind) (name : String) : Prop :=
  ∃ l ∈ k.lineage, l ≠ Kind.root.label ∧
    (name = l.name ∨ name = l.qualified ∨ ∃ j names, .register j names ∈ calls ∧ j.label = l ∧ name ∈ names)

/-- Which lookups were made, and when and how often something was registered, does not matter. -/
theorem entitled_congr {others : List Call} (h : ∀ j names, .register j names ∈ others ↔ .register j names ∈ calls) :
    Entitled others k name ↔ Entitled calls k name := by
  simp only [Entitled, h]

theorem mem_lookup_afterAll : name ∈ ((empty.afterAll calls).lookup k).1 ↔ Entitled calls k name := by
  have registered (l : KindLabel) : (l, name) ∈ (empty.afterAll calls).capabilities ↔
      ∃ j names, .register j names ∈ calls ∧ j.label = l ∧ name ∈ names := by
    rw [capabilities_afterAll, empty, List.nil_append, List.mem_flatMap]
    simp only [Call.mem_registered]
    constructor
    · rintro ⟨_, hc, j, names, rfl, h⟩
      exact ⟨j, names, hc, h⟩
    · rintro ⟨j, names, hc, h⟩
      exact ⟨_, hc, j, names, rfl, h⟩
  rw [lookup_fst, mem_namesOf]
  simp only [registered, Entitled]

theorem answers_afterAll : ((empty.afterAll calls).answers k name).1 = true ↔ Entitled calls k name := by
  show ((empty.afterAll calls).lookup k).1.contains name = true ↔ _
  rw [List.contains_iff_mem, mem_lookup_afterAll]

/-- What is kept is never out of date. After any calls, registrations and lookups mixed, a kind answers to just the
names of its lineage and what was registered so far for a kind of its lineage, the root aside; and a value answers to
what its kind does. So calls with the same registrations, in whatever order and with whatever lookups between them, lead
to the same answers. -/
theorem lookup_afterAll (calls : List Call) :
    (∀ k name, name ∈ ((empty.afterAll calls).lookup k).1 ↔ Entitled calls k name) ∧
    (∀ (v : Value) name, ((empty.afterAll calls).answers v.kind name).1 = true ↔ Entitled calls v.kind name) ∧
    ∀ others : List Call, (∀ j names, .register j names ∈ others ↔ .register j names ∈ calls) → ∀ k name,
      (name ∈ ((empty.afterAll others).lookup k).1 ↔ name ∈ ((empty.afterAll calls).lookup k).1) ∧
      ((empty.afterAll others).answers k name).1 = ((empty.afterAll calls).answers k name).1 := by
  refine ⟨fun k name => mem_lookup_afterAll, fun v name => answers_afterAll, fun others h k name => ⟨?_, ?_⟩⟩
  · rw [mem_lookup_afterAll, mem_lookup_afterAll, entitled_congr h]
  · rw [Bool.eq_iff_iff, answers_afterAll, answers_afterAll, entitled_congr h]

namespace Staff

/-! Clerks are persons; their names are looked up before persons are known as greeters. -/

def person : Kind := ⟨⟨"Person", "staff.Person", 1⟩, []⟩

def clerk : Kind := ⟨⟨"Clerk", "staff.Clerk", 2⟩, [person.label]⟩

def told : List Call :=
  [.lookup clerk, .register person ["Greeter"], .answers (.object clerk .null) "Greeter", .register .root ["Thing"]]

def toldAnew : List Call := [.register .root ["Thing"], .register person ["Greeter"]]

end Staff

open Staff in
/-- A clerk is a greeter, in whatever order that is told, and no thing, though everything is below the root. -/
theorem lookup_afterAll_clerk :
    "Greeter" ∈ ((empty.afterAll told).lookup clerk).1 ∧ "Thing" ∉ ((empty.afterAll told).lookup clerk).1 ∧
      ((empty.afterAll told).answers (Value.object clerk .null).kind "staff.Person").1 = true ∧
      ((empty.afterAll toldAnew).answers clerk "Greeter").1 = ((empty.afterAll told).answers clerk "Greeter").1 := by
  obtain ⟨hlookup, hanswers, hsame⟩ := lookup_afterAll told
  have hclerk : clerk.lineage = [clerk.label, person.label] := rfl
  refine ⟨(hlookup ..).2 ?_, mt (hlookup ..).1 ?_, (hanswers ..).2 ?_, (hsame toldAnew ?_ clerk "Greeter").2⟩
  · exact ⟨person.label, by simp [hclerk], by decide, .inr (.inr ⟨person, ["Greeter"], by simp [told], rfl, by simp⟩)⟩
  · rintro ⟨l, hl, hroot, hname | hname | ⟨j, names, hj, rfl, hn⟩⟩
    · revert hname
      exact (by decide : ∀ l ∈ clerk.lineage, "Thing" ≠ l.name) l hl
    · revert hname
      exact (by decide : ∀ l ∈ clerk.lineage, "Thing" ≠ l.qualified) l hl
    · have hcall : (j = person ∧ names = ["Greeter"]) ∨ (j = .root ∧ names = ["Thing"]) := by simpa [told] using hj
      rcases hcall with ⟨rfl, rfl⟩ | ⟨rfl, rfl⟩
      · simp at hn
      · exact hroot rfl
  · exact ⟨person.label, by simp [Value.kind, hclerk], by decide, .inr (.inl rfl)⟩
  · intro j names
    simp [told, toldAnew, or_comm]

end GoalPlanner.Registry
