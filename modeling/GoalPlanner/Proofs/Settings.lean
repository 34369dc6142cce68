import GoalPlanner.Proofs.Document.Fields
import GoalPlanner.Proofs.Reading
import GoalPlanner.Proofs.Text.Capital
import GoalPlanner.Settings
import Mathlib

/-!
# What settings are read

A document gives settings that can be used (`Settings.Proper`) unless something in it is at fault
(`Settings.Fault`). Then it is refused for one of its faults, and every fault but one is a value that the refusal names
(`Settings.Error.isSome_message?_of_namesFault`): a threshold for deferral that is an integer beyond the range of floats is not
refused by name, if the reading comes to it (`Settings.read_eq_tooLarge_iff`).
-/

namespace GoalPlanner

open Document (bind_eq_ok_iff bind_eq_error_iff entries)

namespace Settings

/-- Settings that can be used: planning takes a step at least, and the level of logging is a known one. -/
structure Proper (c : Settings) : Prop where
  limit : 1 ≤ c.options.limit
  level : (c.level, c.threshold) ∈ Log.thresholds

/-- The settings in use unless others are given can be used. -/
theorem proper_usual : usual.Proper := ⟨by decide, by decide⟩

/-! ## Faults -/

/-- The names of the sections. -/
def sectionNames : List String := ["planner", "resolver", "logging"]

/-- The fields of a section of a document; there are none in what is no mapping. -/
def fieldsOf (doc : List (Value × Value)) (name : String) : List (Value × Value) := entries (Value.getD name doc)

/-- The name of the level that a document asks for, in capitals. -/
def askedLevel (doc : List (Value × Value)) : String :=
  Text.toCapitals (((Value.field? "level" (fieldsOf doc "logging")).map Value.shown).getD usual.level)

/-- What is at fault in a document: a section that is no mapping, or a field whose value is not of its kind or out of
its range. -/
def Fault (doc : List (Value × Value)) : Error → Prop
  | .notSection name v => name ∈ sectionNames ∧ Value.getD name doc = v ∧ v.isTrue = true ∧ ∀ fs, v ≠ .mapping fs
  | .limit v => Value.field? "max_iterations" (fieldsOf doc "planner") = some v ∧ ∀ n : Int, 0 < n → v ≠ .int n
  | .trims v => Value.field? "simplify_plans" (fieldsOf doc "planner") = some v ∧ ∀ b, v ≠ .bool b
  | .deferAbove v => Value.getD "defer_cost_threshold" (fieldsOf doc "resolver") = v ∧ v ≠ .null ∧
      (∀ n, v ≠ .int n) ∧ ∀ x, v ≠ .float x
  | .tooLarge => ∃ n, Value.getD "defer_cost_threshold" (fieldsOf doc "resolver") = .int n ∧
      Nat.pow 2 1024 - Nat.pow 2 970 ≤ n.natAbs
  | .level name => askedLevel doc = name ∧ ∀ t ∈ Log.thresholds, name ≠ t.1
  | .noFile _ | .isDirectory | .tooLong | .notDocument .. => False

/-- Whether a refusal names the section or the field that is at fault. -/
def Error.namesFault : Error → Bool
  | .notSection .. | .limit _ | .trims _ | .deferAbove _ | .level _ => true
  | _ => false

/-- Something is said about every fault that is named. -/
theorem Error.isSome_message?_of_namesFault {e : Error} (h : e.namesFault = true) : e.message?.isSome := by
  cases e <;> first | rfl | cases h

/-- A fault of a document that its refusal names. -/
def NamedFault (doc : List (Value × Value)) (e : Error) : Prop := Fault doc e ∧ e.namesFault = true

/-! ## Sections and fields -/

variable {doc : List (Value × Value)}

theorem ends_readSection {name : String} (hname : name ∈ sectionNames) :
    Ends (readSection doc name) (fun fields => fields = fieldsOf doc name ∧ ∀ v, ¬Fault doc (.notSection name v))
      (NamedFault doc) := by
  unfold readSection
  by_cases h : (Value.getD name doc).isTrue = true
  · simp only [h, if_true]
    cases hv : Value.getD name doc with
    | mapping fields =>
      refine .ok ⟨by rw [fieldsOf, hv, entries], ?_⟩
      rintro v ⟨-, hw, -, hno⟩
      exact hno fields (hw.symm.trans hv)
    | _ => exact .error ⟨⟨hname, hv, hv ▸ h, by simp⟩, rfl⟩
  · rw [if_neg h]
    refine .ok ⟨(Document.entries_of_not_isTrue (Bool.eq_false_iff.2 h)).symm, ?_⟩
    rintro v ⟨-, rfl, htrue, -⟩
    exact h htrue

theorem ends_readLimit : Ends (readLimit (fieldsOf doc "planner"))
    (fun limit => 1 ≤ limit ∧ ∀ v, ¬Fault doc (.limit v)) (NamedFault doc) := by
  unfold readLimit
  split
  · rename_i hv
    refine .ok ⟨by decide, ?_⟩
    rintro v ⟨hw, -⟩
    cases hw.symm.trans hv
  · rename_i n hv
    split
    · rename_i hn
      refine .ok ⟨by omega, ?_⟩
      rintro v ⟨hw, hint⟩
      exact hint n hn (Option.some.inj (hw.symm.trans hv))
    · rename_i hn
      refine .error ⟨⟨hv, ?_⟩, rfl⟩
      rintro m hm ⟨⟩
      exact hn hm
  · rename_i v hint hv
    exact .error ⟨⟨hv, fun n _ => hint n⟩, rfl⟩

theorem ends_readTrims : Ends (readTrims (fieldsOf doc "planner")) (fun _ => ∀ v, ¬Fault doc (.trims v))
    (NamedFault doc) := by
  unfold readTrims
  split
  · rename_i hv
    refine .ok ?_
    rintro v ⟨hw, -⟩
    cases hw.symm.trans hv
  · rename_i b hv
    refine .ok ?_
    rintro v ⟨hw, hbool⟩
    exact hbool b (Option.some.inj (hw.symm.trans hv))
  · rename_i v hbool hv
    exact .error ⟨⟨hv, hbool⟩, rfl⟩

theorem ends_readDeferAbove : Ends (readDeferAbove (fieldsOf doc "resolver"))
    (fun _ => (∀ v, ¬Fault doc (.deferAbove v)) ∧ ¬Fault doc .tooLarge) (Fault doc) := by
  unfold readDeferAbove
  cases hv : Value.getD "defer_cost_threshold" (fieldsOf doc "resolver") with
  | null =>
    refine .ok ⟨?_, ?_⟩
    · rintro v ⟨hw, hnull, -, -⟩
      exact hnull (hw.symm.trans hv)
    · rintro ⟨n, hw, -⟩
      cases hw.symm.trans hv
  | int n =>
    dsimp only
    cases hn : Decimal.ofInt? n with
    | none => exact .error ⟨n, hv, Decimal.ofInt?_eq_none_iff.1 hn⟩
    | some x =>
      refine .ok ⟨?_, ?_⟩
      · rintro v ⟨hw, -, hint, -⟩
        exact hint n (hw.symm.trans hv)
      · rintro ⟨m, hw, hlarge⟩
        cases hw.symm.trans hv
        rw [Decimal.ofInt?_eq_none_iff.2 hlarge] at hn
        cases hn
  | float x =>
    refine .ok ⟨?_, ?_⟩
    · rintro v ⟨hw, -, -, hfloat⟩
      exact hfloat x (hw.symm.trans hv)
    · rintro ⟨n, hw, -⟩
      cases hw.symm.trans hv
  | _ => exact .error ⟨hv, by simp, by simp, by simp⟩

theorem readLevel_eq : readLevel (fieldsOf doc "logging") =
    (Log.threshold? (askedLevel doc)).elim (.error (.level (askedLevel doc))) fun n => .ok (askedLevel doc, n) := by
  unfold readLevel askedLevel
  dsimp only
  split <;> rename_i h <;> rw [h] <;> rfl

theorem ends_readLevel : Ends (readLevel (fieldsOf doc "logging"))
    (fun l => l ∈ Log.thresholds ∧ ∀ name, ¬Fault doc (.level name)) (NamedFault doc) := by
  rw [readLevel_eq]
  cases h : Log.threshold? (askedLevel doc) with
  | some n =>
    have hmem : (askedLevel doc, n) ∈ Log.thresholds := Log.mem_thresholds h
    refine .ok ⟨hmem, ?_⟩
    rintro name ⟨rfl, hno⟩
    exact hno _ hmem rfl
  | none => exact .error ⟨⟨rfl, fun t ht => Log.ne_of_threshold?_eq_none h ht⟩, rfl⟩

/-! ## Documents -/

/-- The options of planning that a document gives. -/
def optionsOf (doc : List (Value × Value)) : Except Error Options := readSection doc "planner" >>= readOptions

theorem ends_optionsOf (doc : List (Value × Value)) : Ends (optionsOf doc)
    (fun o => 1 ≤ o.limit ∧ (∀ v, ¬Fault doc (.notSection "planner" v)) ∧ (∀ v, ¬Fault doc (.limit v)) ∧
      ∀ v, ¬Fault doc (.trims v)) (NamedFault doc) := by
  refine (ends_readSection (by decide)).bind ?_
  rintro _ - ⟨rfl, hsection⟩
  refine ends_readLimit.bind fun limit _ hlimit => ends_readTrims.bind fun trims _ htrims => ?_
  exact .ok ⟨hlimit.1, hsection, hlimit.2, htrims⟩

/-- A document is read part by part. -/
theorem read_eq (doc : List (Value × Value)) : read doc = (do
    let options ← optionsOf doc
    let deferAbove ← readSection doc "resolver" >>= readDeferAbove
    let level ← readSection doc "logging" >>= readLevel
    return ⟨options, deferAbove, level.1, level.2⟩) := by
  simp only [read, optionsOf, bind_assoc]

theorem ends_read (doc : List (Value × Value)) :
    Ends (read doc) (fun c => c.Proper ∧ ∀ e, ¬Fault doc e) (Fault doc) := by
  have hnamed : ∀ e, NamedFault doc e → Fault doc e := fun _ he => he.1
  rw [read_eq]
  refine ((ends_optionsOf doc).mono (fun _ h => h) hnamed).bind ?_
  rintro options - ⟨hlimit, hplanner, hlimits, htrims⟩
  have hresolver : Ends (readSection doc "resolver" >>= readDeferAbove)
      (fun _ => (∀ v, ¬Fault doc (.notSection "resolver" v)) ∧ (∀ v, ¬Fault doc (.deferAbove v)) ∧
        ¬Fault doc .tooLarge) (Fault doc) := by
    refine ((ends_readSection (by decide)).mono (fun _ h => h) hnamed).bind ?_
    rintro _ - ⟨rfl, hsection⟩
    exact ends_readDeferAbove.mono (fun _ h => ⟨hsection, h⟩) fun _ h => h
  refine hresolver.bind fun deferAbove _ hdefer => ?_
  have hlogging : Ends (readSection doc "logging" >>= readLevel)
      (fun l => l ∈ Log.thresholds ∧ (∀ v, ¬Fault doc (.notSection "logging" v)) ∧ ∀ name, ¬Fault doc (.level name))
      (Fault doc) := by
    refine ((ends_readSection (by decide)).mono (fun _ h => h) hnamed).bind ?_
    rintro _ - ⟨rfl, hsection⟩
    exact ends_readLevel.mono (fun _ h => ⟨h.1, hsection, h.2⟩) hnamed
  refine hlogging.bind fun level _ hlevel => .ok ⟨⟨hlimit, hlevel.1⟩, fun e he => ?_⟩
  cases e with
  | notSection name v =>
    have hname : name ∈ ["planner", "resolver", "logging"] := he.1
    simp only [List.mem_cons, List.not_mem_nil, or_false] at hname
    rcases hname with rfl | rfl | rfl
    · exact hplanner v he
    · exact hdefer.1 v he
    · exact hlevel.2.1 v he
  | limit v => exact hlimits v he
  | trims v => exact htrims v he
  | deferAbove v => exact hdefer.2.1 v he
  | tooLarge => exact hdefer.2.2 he
  | level name => exact hlevel.2.2 name he
  | _ => exact he

/-- A section with fields is read. -/
theorem readSection_of_ne_nil {name : String} (h : fieldsOf doc name ≠ []) :
    readSection doc name = .ok (fieldsOf doc name) := by
  unfold fieldsOf at h ⊢
  cases hv : Value.getD name doc with
  | mapping fields =>
    rw [hv] at h
    have htrue : (Value.mapping fields).isTrue = true := by simpa [Value.isTrue, entries] using h
    rw [readSection, hv, if_pos htrue, entries]
  | _ => exact absurd (by rw [hv]; rfl) h

theorem resolver_eq_tooLarge (h : Fault doc .tooLarge) :
    (readSection doc "resolver" >>= readDeferAbove) = .error .tooLarge := by
  obtain ⟨n, hn, hlarge⟩ := h
  have hfields : fieldsOf doc "resolver" ≠ [] := by
    intro he
    rw [he] at hn
    cases hn
  rw [readSection_of_ne_nil hfields]
  show readDeferAbove _ = _
  rw [readDeferAbove, hn]
  dsimp only
  rw [Decimal.ofInt?_eq_none_iff.2 hlarge]
  rfl

/-- A threshold that is too large is what a document is refused for just if planning has its options. -/
theorem read_eq_tooLarge_iff : read doc = .error .tooLarge ↔ (∃ o, optionsOf doc = .ok o) ∧ Fault doc .tooLarge := by
  constructor
  · intro h
    refine ⟨?_, (ends_read doc).justified h⟩
    rw [read_eq] at h
    rcases bind_eq_error_iff.1 h with h | ⟨o, ho, -⟩
    · cases ((ends_optionsOf doc).justified h).2
    · exact ⟨o, ho⟩
  · rintro ⟨⟨o, ho⟩, hlarge⟩
    rw [read_eq, ho]
    show ((readSection doc "resolver" >>= readDeferAbove) >>= _) = _
    rw [resolver_eq_tooLarge hlarge]
    rfl

/-- Reading a document comes to settings that can be used, and then nothing in the document is at fault; or it is
refused for a fault that the refusal names; or for a threshold for deferral that is too large, which happens just if
there is such a threshold and planning has its options. -/
theorem read_settles (doc : List (Value × Value)) :
    ((∃ c, read doc = .ok c ∧ c.Proper ∧ ∀ e, ¬Fault doc e) ∨
      (∃ e, read doc = .error e ∧ Fault doc e ∧ e.namesFault = true) ∨ read doc = .error .tooLarge) ∧
    (read doc = .error .tooLarge ↔ (∃ o, optionsOf doc = .ok o) ∧ Fault doc .tooLarge) := by
  refine ⟨?_, read_eq_tooLarge_iff⟩
  rcases ends_read doc with ⟨c, hc, hproper, hno⟩ | ⟨e, he, hfault⟩
  · exact .inl ⟨c, hc, hproper, hno⟩
  · cases e with
    | tooLarge => exact .inr (.inr he)
    | noFile | isDirectory | tooLong | notDocument => exact hfault.elim
    | _ => exact .inr (.inl ⟨_, he, hfault, rfl⟩)

/-- A threshold of ten to the power of 309 is refused without being named. -/
theorem read_unnamed : ∃ doc, read doc = .error .tooLarge ∧
    ¬((∃ c, read doc = .ok c ∧ c.Proper) ∨ ∃ e, read doc = .error e ∧ e.namesFault = true) := by
  have h : read [(.text "resolver", .mapping [(.text "defer_cost_threshold", .int (Nat.pow 10 309))])] =
      .error .tooLarge := by
    refine read_eq_tooLarge_iff.2 ⟨⟨.usual, rfl⟩, Nat.pow 10 309, rfl, ?_⟩
    rw [Int.natAbs_natCast]
    decide +kernel
  refine ⟨_, h, ?_⟩
  rintro (⟨c, hc, -⟩ | ⟨e, he, hnamed⟩)
  · cases h.symm.trans hc
  · cases h.symm.trans he
    cases hnamed

end Settings

end GoalPlanner
