import GoalPlanner.Proofs.Document.Domain
import GoalPlanner.Proofs.Flags
import Mathlib

/-!
# Two spellings of conditions

Conditions that hold can be listed by name, or be given as the keys of a mapping with the value true (`allTrue`). Either
way each key counts once (`map_fst_entriesOf`). But a mapping gives the texts of its keys, where a list gives its
members as they are (`readSpec_list`, `readSpec_allTrue`); so the spellings agree for texts only (`uniform_eq_iff`).
Hence a condition of a document whose name is no text has been listed (`mem_keys_of_readSpec`).
-/

namespace GoalPlanner.Document

/-! ## Keys of mappings -/

/-- Setting an entry keeps the keys of a mapping, with one more unless it is there. -/
theorem map_fst_putEntry (k v : Value) (es : List (Value × Value)) :
    (Value.putEntry k v es).map Prod.fst = keepKey (es.map Prod.fst) k := by
  induction es with
  | nil => rfl
  | cons e es ih =>
    rw [Value.putEntry]
    split
    · rename_i h
      simp [keepKey, h]
    · rename_i h
      rw [List.map_cons, ih, keepKey, keepKey, List.map_cons, List.any_cons, Bool.eq_false_iff.2 h, Bool.false_or]
      split <;> rfl

/-- The keys of a mapping are those that it is made of, each once. -/
theorem map_fst_entriesOf (es : List (Value × Value)) :
    (Value.entriesOf es).map Prod.fst = distinctKeys (es.map Prod.fst) := by
  have hfold (m : List (Value × Value)) : (es.foldl (fun m e => Value.putEntry e.1 e.2 m) m).map Prod.fst =
      (es.map Prod.fst).foldl keepKey (m.map Prod.fst) := by
    induction es generalizing m with
    | nil => rfl
    | cons e es ih => rw [List.foldl_cons, ih, map_fst_putEntry, List.map_cons, List.foldl_cons]
  exact hfold []

theorem snd_of_mem_putEntry {k v : Value} {es : List (Value × Value)} (h : ∀ e ∈ es, e.2 = v) {e : Value × Value}
    (he : e ∈ Value.putEntry k v es) : e.2 = v := by
  induction es with
  | nil =>
    rw [Value.putEntry, List.mem_singleton] at he
    rw [he]
  | cons d es ih =>
    rw [List.forall_mem_cons] at h
    rw [Value.putEntry] at he
    split at he
    · rcases List.mem_cons.1 he with rfl | he
      · rfl
      · exact h.2 e he
    · rcases List.mem_cons.1 he with rfl | he
      · exact h.1
      · exact ih h.2 he

/-- A mapping with one value for all keys gives each of them this value. -/
theorem snd_of_mem_entriesOf {v : Value} {ks : List Value} {e : Value × Value}
    (he : e ∈ Value.entriesOf (ks.map fun k => (k, v))) : e.2 = v := by
  have hfold (js : List Value) (m : List (Value × Value)) (hm : ∀ e ∈ m, e.2 = v)
      (he : e ∈ (js.map fun k => (k, v)).foldl (fun m e => Value.putEntry e.1 e.2 m) m) : e.2 = v := by
    induction js generalizing m with
    | nil => exact hm e he
    | cons k js ih => exact ih _ (fun d => snd_of_mem_putEntry hm) he
  exact hfold ks [] (List.forall_mem_nil _) he

/-- The mapping that gives each of some keys the value true. -/
def allTrue (ks : List Value) : Value := .mapping (Value.entriesOf (ks.map fun k => (k, .bool true)))

theorem entries_allTrue (ks : List Value) :
    entries (allTrue ks) = (distinctKeys ks).map fun k => (k, .bool true) := by
  have hfst : (entries (allTrue ks)).map Prod.fst = distinctKeys ks := by
    rw [allTrue, entries, map_fst_entriesOf, List.map_map]
    exact congrArg distinctKeys (List.map_id ks)
  rw [← hfst, List.map_map]
  refine (List.map_id _).symm.trans (List.map_congr_left fun e he => ?_)
  exact Prod.ext rfl (snd_of_mem_entriesOf he)

/-! ## Both spellings -/

variable {vs : List Value}

/-- A list gives its members as names that hold. -/
theorem readSpec_list (h : ∀ v ∈ vs, IsScalar v) :
    readSpec .null (.list vs) = .ok (Facts.uniform ((distinctKeys vs).map scalarName) .yes) := by
  rw [readSpec, readNames_scalars h]
  rfl

/-- A mapping with the value true for all keys gives their texts as names that hold. -/
theorem readSpec_allTrue (vs : List Value) :
    readSpec (allTrue vs) .null = .ok (Facts.uniform ((distinctKeys vs).map fun v => .text v.shown) .yes) := by
  have hconditions : readConditions (allTrue vs) =
      .ok ((distinctKeys vs).map fun v => (.text v.shown, .yes)) := by
    refine readConditions_eq_ok_iff.2 ⟨fun _ => rfl, ?_⟩
    rw [entries_allTrue, List.forall₂_map_right_iff, List.forall₂_map_left_iff, List.forall₂_same]
    exact fun v _ => ⟨rfl, rfl⟩
  have hnames : readNames .null = .ok (Facts.uniform [] .yes) := rfl
  rw [readSpec, hnames, hconditions]
  show Except.ok (Table.setAll (Table.ofList []) _) = _
  rw [Facts.uniform, List.map_map]
  rfl

/-- A scalar that is no text is no key with a text. -/
theorem eq_text_of_sameKey {v : Value} {s : String} (h : IsScalar v) (hv : Value.sameKey (.text s) v = true) :
    v = .text s := by
  cases v with
  | text t => exact congrArg Value.text (eq_of_beq hv).symm
  | int | bool => exact absurd hv Bool.false_ne_true
  | _ => exact h.elim

/-- The two spellings give the same only if everything is a text. -/
theorem uniform_eq_iff (h : ∀ v ∈ vs, IsScalar v) :
    Facts.uniform ((distinctKeys vs).map scalarName) .yes =
        Facts.uniform ((distinctKeys vs).map fun v => .text v.shown) .yes ↔ ∀ v ∈ vs, ∃ s, v = .text s := by
  constructor
  · intro heq v hv
    obtain ⟨w, hw, hwv⟩ := exists_mem_distinctKeys hv
    have hget : (Facts.uniform ((distinctKeys vs).map scalarName) .yes).get? (scalarName w) = some .yes := by
      rw [Facts.get?_uniform, if_pos (List.mem_map_of_mem hw)]
    simp only [heq, Facts.get?_uniform, ite_eq_left_iff, reduceCtorEq, imp_false, not_not] at hget
    obtain ⟨u, -, hu⟩ := List.mem_map.1 hget
    -- the scalar that is kept in the place of `v` is the text that the mapping gives, so `v` is this text too
    have hw := (scalarName_eq_text_iff (h w (mem_of_mem_distinctKeys hw))).1 hu.symm
    subst hw
    exact ⟨_, hwv.elim Eq.symm (eq_text_of_sameKey (h v hv))⟩
  · intro htext
    refine congrArg (Facts.uniform · .yes) (List.map_congr_left fun v hv => ?_)
    obtain ⟨s, rfl⟩ := htext v (mem_of_mem_distinctKeys hv)
    rfl

/-! ## Entries -/

/-- Fields that list conditions by name, and others that are alike but for giving each of these conditions the value
true in a mapping. -/
structure Respells (names explicit : String) (vs : List Value) (fs gs : List (Value × Value)) : Prop where
  listed : Value.getD names fs = .list vs
  unstated : Value.getD explicit fs = .null
  unlisted : Value.getD names gs = .null
  stated : Value.getD explicit gs = allTrue vs
  others : ∀ key, key ≠ names → key ≠ explicit → Value.field? key fs = Value.field? key gs

section

variable {fs gs : List (Value × Value)} {names explicit : String}

namespace Respells

theorem getD_eq (h : Respells names explicit vs fs gs) (key : String) (hn : key ≠ names) (he : key ≠ explicit) :
    Value.getD key fs = Value.getD key gs := by
  rw [Value.getD, Value.getD, h.others key hn he]

theorem readText_eq (h : Respells names explicit vs fs gs) (key : String) (hn : key ≠ names) (he : key ≠ explicit) :
    readText key fs = readText key gs := by
  rw [readText, readText, h.others key hn he]

theorem readOptional_eq (h : Respells names explicit vs fs gs) (key : String) (hn : key ≠ names)
    (he : key ≠ explicit) : readOptional key fs = readOptional key gs := by
  rw [readOptional, readOptional, h.others key hn he]

end Respells

/-- Two readings that succeed together and come to the same but for one part, which is `f` in the one and `g` in the
other. -/
structure SameBut {β : Type} (part : β → Facts) (put : β → Facts → β) (f g : Facts) (x y : Except DocumentError β) :
    Prop where
  left : ∀ a, x = .ok a → part a = f ∧ y = .ok (put a g)
  right : ∀ b, y = .ok b → part b = g ∧ x = .ok (put b f)

variable {f g : Facts}

theorem SameBut.of_iff {β : Type} {part : β → Facts} {put : β → Facts → β} {x y : Except DocumentError β}
    {P : β → Prop} (hpart : ∀ a h, part (put a h) = h) (hput : ∀ a h, P a → P (put a h))
    (hx : ∀ a, x = .ok a ↔ f = part a ∧ P a) (hy : ∀ a, y = .ok a ↔ g = part a ∧ P a) : SameBut part put f g x y where
  left a ha := by
    obtain ⟨hf, hP⟩ := (hx a).1 ha
    exact ⟨hf.symm, (hy _).2 ⟨(hpart a g).symm, hput a g hP⟩⟩
  right b hb := by
    obtain ⟨hg, hP⟩ := (hy b).1 hb
    exact ⟨hg.symm, (hx _).2 ⟨(hpart b f).symm, hput b f hP⟩⟩

/-- What the fields of an action say beside its requirements and effects. -/
def ReadsRest (fs : List (Value × Value)) (a : Action Float) : Prop :=
  (Value.field? "name" fs).isSome ∧ a.name = readText "name" fs ∧
    readOptional "cost" fs = .ok a.cost ∧ readOptional "value" fs = .ok a.value

theorem readAction_mapping_iff {a : Action Float} : readAction (.mapping fs) = .ok a ↔
    readSpec (Value.getD "preconditions" fs) (Value.getD "pre" fs) = .ok a.pre ∧
      readSpec (Value.getD "effects" fs) (Value.getD "post" fs) = .ok a.eff ∧ ReadsRest fs a := by
  simp only [readAction_eq_ok_iff, Value.mapping.injEq, exists_eq_left', ReadsRest]
  tauto

theorem Respells.readsRest_iff (h : Respells names explicit vs fs gs) (hn : names ∈ ["pre", "post"])
    (he : explicit ∈ ["preconditions", "effects"]) {a : Action Float} : ReadsRest fs a ↔ ReadsRest gs a := by
  have hne (key : String) (hkey : key ∉ ["pre", "post"]) (hkey' : key ∉ ["preconditions", "effects"]) :
      key ≠ names ∧ key ≠ explicit := ⟨fun h => hkey (h ▸ hn), fun h => hkey' (h ▸ he)⟩
  obtain ⟨hname, hname'⟩ := hne "name" (by decide) (by decide)
  obtain ⟨hcost, hcost'⟩ := hne "cost" (by decide) (by decide)
  obtain ⟨hvalue, hvalue'⟩ := hne "value" (by decide) (by decide)
  rw [ReadsRest, ReadsRest, h.others "name" hname hname', h.readText_eq "name" hname hname',
    h.readOptional_eq "cost" hcost hcost', h.readOptional_eq "value" hvalue hvalue']

theorem sameBut_pre (h : Respells "pre" "preconditions" vs fs gs) (hf : readSpec .null (.list vs) = .ok f)
    (hg : readSpec (allTrue vs) .null = .ok g) :
    SameBut Action.pre (fun a f => { a with pre := f }) f g (readAction (.mapping fs)) (readAction (.mapping gs)) := by
  refine .of_iff (P := fun a => readSpec (Value.getD "effects" gs) (Value.getD "post" gs) = .ok a.eff ∧
    ReadsRest gs a) (fun _ _ => rfl) (fun _ _ ha => ha) (fun a => ?_) fun a => ?_
  · rw [readAction_mapping_iff, h.unstated, h.listed, hf, h.getD_eq "effects" (by decide) (by decide),
      h.getD_eq "post" (by decide) (by decide), h.readsRest_iff (by decide) (by decide), Except.ok.injEq]
  · rw [readAction_mapping_iff, h.stated, h.unlisted, hg, Except.ok.injEq]

theorem sameBut_eff (h : Respells "post" "effects" vs fs gs) (hf : readSpec .null (.list vs) = .ok f)
    (hg : readSpec (allTrue vs) .null = .ok g) :
    SameBut Action.eff (fun a f => { a with eff := f }) f g (readAction (.mapping fs)) (readAction (.mapping gs)) := by
  refine .of_iff (P := fun a => readSpec (Value.getD "preconditions" gs) (Value.getD "pre" gs) = .ok a.pre ∧
    ReadsRest gs a) (fun _ _ => rfl) (fun _ _ ha => ha) (fun a => ?_) fun a => ?_
  · rw [readAction_mapping_iff, h.unstated, h.listed, hf, h.getD_eq "preconditions" (by decide) (by decide),
      h.getD_eq "pre" (by decide) (by decide), h.readsRest_iff (by decide) (by decide), Except.ok.injEq,
      and_left_comm]
  · rw [readAction_mapping_iff, h.stated, h.unlisted, hg, Except.ok.injEq, and_left_comm]

/-- A goal that gives requirements in some spelling is what its fields say. -/
theorem readGoal_mapping_iff
    (hgiven : Value.getD "preconditions" fs ≠ .null ∨ Value.getD "pre" fs ≠ .null) {b : Goal Float} :
    readGoal (.mapping fs) = .ok b ↔
      readSpec (Value.getD "preconditions" fs) (Value.getD "pre" fs) = .ok b.pre ∧
        (Value.field? "name" fs).isSome ∧ b.name = readText "name" fs ∧ readOptional "value" fs = .ok b.value ∧
        b.description = readText "description" fs := by
  have hnot : ¬(Value.getD "preconditions" fs = .null ∧ Value.getD "pre" fs = .null) := not_and_or.2 hgiven
  rw [readGoal_eq_ok_iff]
  constructor
  · rintro ⟨_, pre, he, hname, hb, hpre, hbpre, hrest⟩
    cases he
    rcases readGoalSpec_eq_ok_iff.1 hpre with ⟨he, hn, -⟩ | ⟨-, f, hf, rfl⟩
    · exact absurd ⟨he, hn⟩ hnot
    · exact ⟨hbpre ▸ hf, hname, hb, hrest⟩
  · rintro ⟨hf, hname, hb, hrest⟩
    exact ⟨fs, some b.pre, rfl, hname, hb, readGoalSpec_eq_ok_iff.2 (.inr ⟨hgiven, b.pre, hf, rfl⟩), rfl, hrest⟩

theorem sameBut_goal (h : Respells "pre" "preconditions" vs fs gs) (hf : readSpec .null (.list vs) = .ok f)
    (hg : readSpec (allTrue vs) .null = .ok g) :
    SameBut Goal.pre (fun b f => { b with pre := f }) f g (readGoal (.mapping fs)) (readGoal (.mapping gs)) := by
  have hlist : Value.getD "pre" fs ≠ .null := by
    rw [h.listed]
    exact nofun
  have hmapping : Value.getD "preconditions" gs ≠ .null := by
    rw [h.stated, allTrue]
    exact nofun
  refine .of_iff (P := fun b => (Value.field? "name" gs).isSome ∧ b.name = readText "name" gs ∧
    readOptional "value" gs = .ok b.value ∧ b.description = readText "description" gs) (fun _ _ => rfl)
    (fun _ _ hb => hb) (fun b => ?_) fun b => ?_
  · rw [readGoal_mapping_iff (.inr hlist), h.unstated, h.listed, hf, h.others "name" (by decide) (by decide),
      h.readText_eq "name" (by decide) (by decide), h.readOptional_eq "value" (by decide) (by decide),
      h.readText_eq "description" (by decide) (by decide), Except.ok.injEq]
  · rw [readGoal_mapping_iff (.inl hmapping), h.stated, h.unlisted, hg, Except.ok.injEq]

end

/-! ## Names of conditions -/

/-- A value lists a name. -/
def ListsName (v : Value) (n : Name) : Prop := ∃ ws w, listed v = .ok ws ∧ w ∈ ws ∧ readName w = .ok n

/-- An entry of a document lists a name in one of its fields for names. -/
def EntryLists (fields : List (Value × Value)) (n : Name) : Prop :=
  ∃ part ∈ ["actions", "goals"], ∃ es fs, listed (Value.getD part fields) = .ok es ∧ .mapping fs ∈ es ∧
    ∃ key ∈ ["pre", "post"], ListsName (Value.getD key fs) n

/-- A condition whose name is no text has been listed. -/
theorem mem_keys_of_readSpec {explicit names : Value} {f : Facts} (h : readSpec explicit names = .ok f) {n : Name}
    (hn : n ∈ f.keys) : (∃ s, n = .text s) ∨ ListsName names n := by
  obtain ⟨named, hnamed, xs, hxs, hf⟩ : ∃ named, readNames names = .ok named ∧
      ∃ xs, readConditions explicit = .ok xs ∧ combine named xs = f := by
    simpa only [readSpec, bind_eq_ok_iff, pure, Except.pure, Except.ok.injEq] using h
  obtain ⟨ws, hws, -, -, ns, hns, hnamed⟩ : ∃ ws, listed names = .ok ws ∧ ∃ ms, ws.mapM readName = .ok ms ∧
      ∃ ns, (distinctKeys ws).mapM readName = .ok ns ∧ Facts.uniform ns .yes = named := by
    simpa only [readNames, bind_eq_ok_iff, pure, Except.pure, Except.ok.injEq] using hnamed
  -- explicit conditions have texts for names, so only the list can speak of another name
  refine or_iff_not_imp_left.2 fun htext => ?_
  have hexplicit : Table.lookup n xs.reverse = none :=
    lookup_of_reads (List.rel_reverse (readConditions_eq_ok_iff.1 hxs).2) fun s hs => htext ⟨s, hs⟩
  rw [Table.mem_keys_iff, ← hf, get?_combine, hexplicit, Option.none_or, ← hnamed, Facts.get?_uniform] at hn
  have hmem : n ∈ ns := by
    by_contra hmem
    rw [if_neg hmem] at hn
    cases hn
  obtain ⟨w, hw, hread⟩ := exists_of_mem_mapM hns hmem
  exact ⟨ws, w, hws, mem_of_mem_distinctKeys hw, hread⟩

/-- A condition of a document whose name is no text has been listed by an entry. -/
theorem entryLists_of_mem_conditions {fields : List (Value × Value)} {source : Option String} {l : Loaded}
    (h : readDomain fields source = .ok l) {n : Name} (hn : n ∈ l.domain.conditions) :
    (∃ s, n = .text s) ∨ EntryLists fields n := by
  obtain ⟨as, gs, has, hactions, hgs, hgoals, -⟩ := readDomain_eq_ok_iff.1 h
  rcases Domain.mem_conditions.1 hn with ⟨a, ha, hn⟩ | ⟨a, ha, hn⟩ | ⟨b, hb, hn⟩
  · obtain ⟨_, hentry, hread⟩ := exists_of_mem_mapM hactions ha
    obtain ⟨fs, rfl, -, -, hpre, -⟩ := readAction_eq_ok_iff.1 hread
    exact (mem_keys_of_readSpec hpre hn).imp_right fun hl =>
      ⟨"actions", by decide, as, fs, has, hentry, "pre", by decide, hl⟩
  · obtain ⟨_, hentry, hread⟩ := exists_of_mem_mapM hactions ha
    obtain ⟨fs, rfl, -, -, -, heff, -⟩ := readAction_eq_ok_iff.1 hread
    exact (mem_keys_of_readSpec heff hn).imp_right fun hl =>
      ⟨"actions", by decide, as, fs, has, hentry, "post", by decide, hl⟩
  · obtain ⟨_, hentry, hread⟩ := exists_of_mem_mapM hgoals hb
    obtain ⟨fs, pre, rfl, -, -, hpre, hbpre, -⟩ := readGoal_eq_ok_iff.1 hread
    rw [hbpre] at hn
    rcases readGoalSpec_eq_ok_iff.1 hpre with ⟨-, -, rfl⟩ | ⟨-, f, hf, rfl⟩
    · exact .inl ⟨b.name, List.mem_singleton.1 hn⟩
    · exact (mem_keys_of_readSpec hf hn).imp_right fun hl =>
        ⟨"goals", by decide, gs, fs, hgs, hentry, "pre", by decide, hl⟩

/-- How the two spellings agree. For scalars, an entry that lists them reads like the entry with the mapping that gives
each of them the value true, but for the conditions given so: where the mapping gives the text of a name, the list gives
the name. So these are the same if and only if all scalars are texts. And every condition of a document that is read has
a text for its name, unless some entry lists the name. -/
theorem spellings_agree_iff (vs : List Value) (h : ∀ v ∈ vs, IsScalar v) :
    (∃ f g : Facts, (f = g ↔ ∀ v ∈ vs, ∃ s, v = .text s) ∧
      (∀ n, g.get? n = some .yes ↔ ∃ m, f.get? m = some .yes ∧ n = .text m.shown) ∧
      (∀ fs gs, Respells "pre" "preconditions" vs fs gs →
        SameBut Action.pre (fun a f => { a with pre := f }) f g (readAction (.mapping fs)) (readAction (.mapping gs)) ∧
        SameBut Goal.pre (fun b f => { b with pre := f }) f g (readGoal (.mapping fs)) (readGoal (.mapping gs))) ∧
      ∀ fs gs, Respells "post" "effects" vs fs gs →
        SameBut Action.eff (fun a f => { a with eff := f }) f g (readAction (.mapping fs)) (readAction (.mapping gs))) ∧
    ∀ fields source l, readDomain fields source = .ok l → ∀ n ∈ l.domain.conditions,
      (∃ s, n = .text s) ∨ EntryLists fields n := by
  refine ⟨⟨_, _, uniform_eq_iff h, fun n => ?_, fun fs gs hr => ⟨sameBut_pre hr (readSpec_list h) (readSpec_allTrue vs),
    sameBut_goal hr (readSpec_list h) (readSpec_allTrue vs)⟩, fun fs gs hr =>
      sameBut_eff hr (readSpec_list h) (readSpec_allTrue vs)⟩, fun _ _ _ hl _ => entryLists_of_mem_conditions hl⟩
  simp only [Facts.get?_uniform, ite_eq_left_iff, reduceCtorEq, imp_false, not_not, List.mem_map]
  constructor
  · rintro ⟨v, hv, rfl⟩
    exact ⟨scalarName v, ⟨v, hv, rfl⟩, by rw [shown_scalarName (h v (mem_of_mem_distinctKeys hv))]⟩
  · rintro ⟨_, ⟨v, hv, rfl⟩, rfl⟩
    exact ⟨v, hv, by rw [shown_scalarName (h v (mem_of_mem_distinctKeys hv))]⟩

namespace Kitchen

/-- An action that lists what it requires. -/
def bakeListed (v : Value) : List (Value × Value) := [(.text "name", .text "bake"), (.text "pre", .list [v])]

/-- The action with a mapping instead. -/
def bakeMapped (v : Value) : List (Value × Value) :=
  [(.text "name", .text "bake"), (.text "preconditions", .mapping [(v, .bool true)])]

theorem respells (v : Value) : Respells "pre" "preconditions" [v] (bakeListed v) (bakeMapped v) where
  listed := rfl
  unstated := rfl
  unlisted := rfl
  stated := rfl
  others key hn he := by simp [bakeListed, bakeMapped, Value.field?, hn.symm, he.symm]

theorem readAction_bakeListed : ∃ a, readAction (.mapping (bakeListed (.bool true))) = .ok a ∧
    a.pre.get? (.flag true) = some .yes := ⟨_, rfl, rfl⟩

theorem readAction_bakeMapped : ∃ b, readAction (.mapping (bakeMapped (.bool true))) = .ok b ∧
    b.pre.get? (.flag true) = none ∧ b.pre.get? "True" = some .yes := ⟨_, rfl, rfl, rfl⟩

end Kitchen

open Kitchen in
/-- An oven can be required either way. -/
theorem spellings_agree_iff_kitchen : ∃ a, readAction (.mapping (bakeListed (.text "oven"))) = .ok a ∧
    readAction (.mapping (bakeMapped (.text "oven"))) = .ok a := by
  obtain ⟨⟨f, g, hfg, -, hpre, -⟩, -⟩ :=
    spellings_agree_iff [.text "oven"] (List.forall_mem_singleton.2 trivial)
  obtain rfl : f = g := hfg.2 (List.forall_mem_singleton.2 ⟨"oven", rfl⟩)
  obtain ⟨a, ha⟩ : ∃ a, readAction (.mapping (bakeListed (.text "oven"))) = .ok a := ⟨_, rfl⟩
  obtain ⟨rfl, hsame⟩ := (hpre _ _ (respells (.text "oven"))).1.left a ha
  exact ⟨a, ha, hsame⟩

open Kitchen in
/-- A flag that is listed is required as a flag, and by its text where it is the key of a mapping; so a condition has a
name that is no text. -/
theorem spellings_differ :
    Respells "pre" "preconditions" [.bool true] (bakeListed (.bool true)) (bakeMapped (.bool true)) ∧
    ∃ a b l, readAction (.mapping (bakeListed (.bool true))) = .ok a ∧
      readAction (.mapping (bakeMapped (.bool true))) = .ok b ∧
      a.pre.get? (.flag true) = some .yes ∧ b.pre.get? (.flag true) = none ∧ b.pre.get? "True" = some .yes ∧
      readDomain [(.text "actions", .list [.mapping (bakeListed (.bool true))])] none = .ok l ∧
      .flag true ∈ l.domain.conditions := by
  obtain ⟨a, ha, hflag⟩ := readAction_bakeListed
  obtain ⟨b, hb, hnone, htext⟩ := readAction_bakeMapped
  have hactions : [Value.mapping (bakeListed (.bool true))].mapM readAction = .ok [a] :=
    mapM_eq_ok_iff.2 (.cons ha .nil)
  refine ⟨respells _, a, b, ⟨⟨[a], [], List.nodup_singleton _, List.nodup_nil⟩, none, none⟩, ha, hb, hflag, hnone,
    htext, readDomain_eq_ok_iff.2 ⟨_, [], rfl, hactions, rfl, rfl, rfl, rfl⟩, ?_⟩
  exact Domain.mem_conditions.2 (.inl ⟨a, List.mem_cons_self, Table.mem_keys_iff.2 (by rw [hflag]; rfl)⟩)

end GoalPlanner.Document
