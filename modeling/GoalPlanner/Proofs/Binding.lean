import GoalPlanner.Proofs.Query
import GoalPlanner.Proofs.World

/-!
# Bound values

A value is bound with a name or without one, and with a label or without one (`Binding`). A label on a value that is no
mapping is refused, which leaves everything as it was (`Binding.perform_of_refused`); which kinds besides those below a
given kind of mappings count as such is left open (`adopted`). Whatever is bound in turn on an empty blackboard, its
three lists tell of the same bindings, those that were accepted (`Blackboard.Records`, `Session.records_bindAll`): the
entries of all of them, the values and labels of the latest one for each name.

So a condition about a binding can be read off the bindings alone (`Resolution.saysIn_bindAll`): `x:Kind` looks at the
latest binding of `x`, and `it:Kind` and `all:Kind` at all bindings.
-/

namespace GoalPlanner

/-! ## Binding values -/

/-- A value bound to a name or without one, by a call or by an operator. -/
inductive Binding
  | bind (name : String) (value : Value) (label : Option String)
  | assign (name : String) (value : Value)
  | add (value : Value) (label : Option String)
  | append (value : Value)

namespace Binding

def name : Binding → String
  | bind name _ _ | assign name _ => name
  | add _ _ | append _ => Blackboard.anonymous

def value : Binding → Value
  | bind _ value _ | assign _ value | add value _ | append value => value

def label : Binding → Option String
  | bind _ _ label | add _ label => label
  | assign _ _ | append _ => none

/-- A label on a value that is no mapping. -/
def refused (w : Binding) (adopted : List KindLabel) : Bool := w.label.isSome && !w.value.isMapping adopted

/-- Binds the value in the present world. -/
def perform (w : Binding) (adopted : List KindLabel) : Effect World Unit := do
  let b ← Effect.ofExcept ((← Effect.world).blackboard.bind w.name w.value w.label adopted)
  Effect.change fun u => { u with blackboard := b }

/-- The bindings that are not refused. -/
def accepted (adopted : List KindLabel) (ws : List Binding) : List Binding := ws.filter fun w => !w.refused adopted

/-- The latest binding of a name. -/
def latest? (name : String) (ws : List Binding) : Option Binding := ws.reverse.find? fun w => w.name == name

/-- Whether a binding is of a kind: its value answers to the kind or is a sequence where that is asked for, or the label
is the kind. -/
def isOf (r : Registry) (kind : String) (w : Binding) : Bool :=
  if kind = Query.sequenceKind then w.value.isSequence
  else (r.answers w.value.kind kind).1 || w.label == some kind

variable {name : String} {w : Binding} {ws : List Binding}

theorem latest?_append (name : String) (ws : List Binding) (w : Binding) :
    latest? name (ws ++ [w]) = if w.name = name then some w else latest? name ws := by
  by_cases h : w.name = name <;> simp [latest?, h]

theorem mem_of_latest? (h : latest? name ws = some w) : w ∈ ws :=
  List.mem_reverse.1 (List.mem_of_find?_eq_some h)

theorem any_of_any_latest? {p : Binding → Bool} (h : (latest? name ws).any p = true) : ws.any p = true := by
  obtain ⟨w, hw, hp⟩ := (Option.any_eq_true _ _).1 h
  exact List.any_eq_true.2 ⟨w, mem_of_latest? hw, hp⟩

end Binding

/-! ## What a blackboard records -/

namespace Blackboard

variable {b : Blackboard} {ws : List Binding} {w : Binding} {adopted : List KindLabel}

/-- The lists of a blackboard tell of some bindings: the entries of all of them, oldest first, the others of the latest
one for each name. -/
structure Records (b : Blackboard) (ws : List Binding) : Prop where
  entries : b.entries = ws.map fun w => (w.value, w.label)
  bindings : ∀ name, b.bindings.get? name = (Binding.latest? name ws).map Binding.value
  labels : ∀ name, b.labels.get? name = (Binding.latest? name ws).bind Binding.label

theorem records_empty : empty.Records [] := ⟨rfl, fun _ => rfl, fun _ => rfl⟩

theorem bind_of_refused (b : Blackboard) (h : w.refused adopted = true) :
    b.bind w.name w.value w.label adopted = .error (.notLabelled w.value.kindName) := by
  obtain ⟨hlabel, hvalue⟩ := Bool.and_eq_true_iff.1 h
  obtain ⟨label, hlabel⟩ := Option.isSome_iff_exists.1 hlabel
  rw [hlabel, bind, if_neg (by simpa using hvalue)]

/-- A binding that is not refused adds an entry, and only what the name stands for changes. -/
theorem exists_bind_of_accepted (b : Blackboard) (hw : w.refused adopted = false) :
    ∃ c, b.bind w.name w.value w.label adopted = .ok c ∧ c.entries = b.entries ++ [(w.value, w.label)] ∧
      (∀ name, c.bindings.get? name = if w.name = name then some w.value else b.bindings.get? name) ∧
      ∀ name, c.labels.get? name = if w.name = name then w.label else b.labels.get? name := by
  cases hlabel : w.label with
  | none => exact ⟨_, rfl, rfl, Table.get?_set _ _ _, Table.get?_erase _ _⟩
  | some label =>
    have hvalue : w.value.isMapping adopted = true := by simpa [Binding.refused, hlabel] using hw
    exact ⟨_, if_pos hvalue, rfl, Table.get?_set _ _ _, Table.get?_set _ _ _⟩

/-- A binding that is not refused is recorded after those before it. -/
theorem Records.bind (h : b.Records ws) (hw : w.refused adopted = false) :
    ∃ c, b.bind w.name w.value w.label adopted = .ok c ∧ c.Records (ws ++ [w]) := by
  obtain ⟨c, hbind, hentries, hbindings, hlabels⟩ := b.exists_bind_of_accepted hw
  refine ⟨c, hbind, ⟨?_, fun name => ?_, fun name => ?_⟩⟩
  · rw [hentries, h.entries, List.map_append]
    rfl
  · rw [hbindings, Binding.latest?_append, h.bindings]
    split <;> rfl
  · rw [hlabels, Binding.latest?_append, h.labels]
    split <;> rfl

end Blackboard

namespace Binding

variable {s : Session World} {w : Binding} {adopted : List KindLabel}

theorem perform_of_refused (h : w.refused adopted = true) (s : Session World) :
    (w.perform adopted).outcome s = (.error (.notLabelled w.value.kindName), s) := by
  have hbind : (Effect.ofExcept (s.world.blackboard.bind w.name w.value w.label adopted)).outcome s =
      (.error (.notLabelled w.value.kindName), s) := by
    rw [Effect.outcome_ofExcept, Blackboard.bind_of_refused _ h]
  rw [perform, Effect.outcome_bind_of_ok (Effect.outcome_world s), Effect.outcome_bind_of_error hbind]

theorem perform_of_ok {b : Blackboard} (h : s.world.blackboard.bind w.name w.value w.label adopted = .ok b) :
    (w.perform adopted).outcome s = (.ok (), { s with world := { s.world with blackboard := b } }) := by
  rw [perform, Effect.outcome_bind_of_ok (Effect.outcome_world s), h,
    Effect.outcome_bind_of_ok (Effect.outcome_ofExcept _ s), Effect.outcome_change]

end Binding

namespace Session

variable {s : Session World} {us : List Binding}

/-- The session after some values were bound in turn, whether or not each could be. -/
def bindAll (s : Session World) (adopted : List KindLabel) (ws : List Binding) : Session World :=
  ws.foldl (fun s w => ((w.perform adopted).outcome s).2) s

/-- What is bound in turn is recorded, except for what is refused. -/
theorem records_bindAll (h : s.world.blackboard.Records us) (adopted : List KindLabel) (ws : List Binding) :
    (s.bindAll adopted ws).world.blackboard.Records (us ++ Binding.accepted adopted ws) := by
  induction ws generalizing s us with
  | nil => simpa [bindAll, Binding.accepted] using h
  | cons w ws ih =>
    show ((((w.perform adopted).outcome s).2).bindAll adopted ws).world.blackboard.Records
      (us ++ Binding.accepted adopted (w :: ws))
    cases hw : w.refused adopted with
    | true =>
      rw [Binding.perform_of_refused hw, Binding.accepted, List.filter_cons_of_neg (by simp [hw])]
      exact ih h
    | false =>
      obtain ⟨c, hbind, hc⟩ := h.bind hw
      rw [Binding.perform_of_ok hbind, Binding.accepted, List.filter_cons_of_pos (by simp [hw]), List.append_cons]
      exact ih hc

end Session

/-! ## Reading bindings -/

namespace Blackboard

variable {b : Blackboard} {ws : List Binding}

theorem run_bind {α β : Type} (look : StateM Registry α) (next : α → StateM Registry β) (r : Registry) :
    (look >>= next).run r = (next (look.run r).1).run (look.run r).2 := rfl

theorem run_fits (v : Value) (kind : String) (label : Option String) (r : Registry) :
    ((fits v kind label).run r).1 = ((r.answers v.kind kind).1 || label == some kind) := by
  have hrun : (fits v kind label).run r =
      (if (r.answers v.kind kind).1 then pure true else pure (label == some kind) : StateM Registry Bool).run
        (r.answers v.kind kind).2 := rfl
  rw [hrun]
  cases (r.answers v.kind kind).1 <;> rfl

/-- A value is found among some if one of them fits. -/
theorem isSome_firstFit {es : List (Value × Option String)} (hnull : ∀ e ∈ es, e.1 ≠ .null) (kind : String)
    (r : Registry) : ((firstFit kind es).run r).1.isSome = es.any fun e => ((fits e.1 kind e.2).run r).1 := by
  induction es generalizing r with
  | nil => rfl
  | cons e es ih =>
    obtain ⟨v, label⟩ := e
    have hv : v ≠ .null := hnull _ List.mem_cons_self
    have hrest : ∀ e ∈ es, e.1 ≠ .null := fun e he => hnull e (List.mem_cons_of_mem _ he)
    rw [firstFit]
    · rw [run_bind, List.any_cons]
      cases hfit : ((fits v kind label).run r).1 with
      | true => rfl
      | false =>
        -- the names of the kind are kept by now, which the later values do not notice
        show ((firstFit kind es).run ((fits v kind label).run r).2).1.isSome = _
        rw [(steady_firstFit kind es).found _ r ((steady_fits v kind label).capabilities r), ih hrest]
        rfl
    · exact hv

theorem bound?_eq (h : b.Records ws) (hnull : ∀ w ∈ ws, w.value ≠ .null) (var : String) :
    b.bound? var = (Binding.latest? var ws).map Binding.value := by
  rw [bound?, h.bindings]
  cases hlatest : Binding.latest? var ws with
  | none => rfl
  | some w =>
    have hw : w.value ≠ .null := hnull w (Binding.mem_of_latest? hlatest)
    rw [Option.map_some]
    split
    · rename_i he
      exact absurd (Option.some.inj he) hw
    · rfl

/-- The value that is meant is found where the latest binding of the variable fits, or any binding does if the variable
stands for all. -/
theorem isSome_value? (h : b.Records ws) (hnull : ∀ w ∈ ws, w.value ≠ .null) (var kind : String) (r : Registry) :
    ((b.value? var kind).run r).1.isSome =
      ((Binding.latest? var ws).any (fun w => ((fits w.value kind w.label).run r).1) ||
        wildcards.contains var && ws.any fun w => ((fits w.value kind w.label).run r).1) := by
  have hentries : ∀ e ∈ b.entries.reverse, e.1 ≠ .null := by
    simpa [h.entries] using hnull
  -- what is found where nothing is bound to the variable precisely, whatever names are kept by then
  have hany (u : Registry) (hu : u.capabilities = r.capabilities) :
      ((if wildcards.contains var then firstFit kind b.entries.reverse else pure none :
        StateM Registry (Option Value)).run u).1.isSome =
        (wildcards.contains var && ws.any fun w => ((fits w.value kind w.label).run r).1) := by
    split
    · rename_i hvar
      rw [(steady_firstFit ..).found u r hu, isSome_firstFit hentries, h.entries, List.any_reverse, List.any_map, hvar,
        Bool.true_and]
      rfl
    · rename_i hvar
      rw [Bool.eq_false_iff.2 hvar]
      rfl
  rw [value?, bound?_eq h hnull, h.labels]
  cases Binding.latest? var ws with
  | none => exact hany r rfl
  | some w =>
    simp only [Option.map_some, Option.bind_some, Option.any_some, run_bind]
    cases hfit : ((fits w.value kind w.label).run r).1 with
    | true => rfl
    | false => exact hany _ ((steady_fits ..).capabilities r)

/-- The sequence that is meant is found where the latest binding of the variable has one, or any binding does if the
variable stands for all. -/
theorem isSome_sequence? (h : b.Records ws) (hnull : ∀ w ∈ ws, w.value ≠ .null) (var : String) :
    (b.sequence? var).isSome =
      ((Binding.latest? var ws).any (fun w => w.value.isSequence) ||
        wildcards.contains var && ws.any fun w => w.value.isSequence) := by
  rw [sequence?, bound?_eq h hnull, objects, h.entries, Option.isSome_or]
  congr 1
  · cases Binding.latest? var ws with
    | none => rfl
    | some w => cases hw : w.value.isSequence <;> simp [hw]
  · split
    · rename_i hvar
      rw [hvar, Bool.true_and, Bool.eq_iff_iff, List.find?_isSome, List.any_eq_true]
      simp
    · rename_i hvar
      rw [Bool.eq_false_iff.2 hvar]
      rfl

end Blackboard

namespace Resolution

variable {κ : Type} [Cost κ] {r : Resolution κ} {history : List String} {w : World} {early : Bool} {ws : List Binding}
  {var kind : String}

/-- A condition about a binding is read off the recorded bindings: the latest one of the variable, or any of them if the
variable stands for all. -/
theorem result_read_binding (h : w.blackboard.Records ws) (hnull : ∀ w ∈ ws, w.value ≠ .null) (hvar : var ≠ "")
    (hcolon : ':' ∉ var.toList) (hkind : kind ≠ "") :
    (r.read history w early (var ++ ":" ++ kind)).result =
      .ok (.ofBool ((Binding.latest? var ws).any (Binding.isOf w.registry kind) ||
        Blackboard.wildcards.contains var && ws.any (Binding.isOf w.registry kind))) := by
  rw [read, Query.ofName_append _ _ hcolon, Query.ofBinding, if_neg (by simp [hvar, hkind])]
  by_cases hseq : kind = Query.sequenceKind
  · have hof : Binding.isOf w.registry kind = fun w => w.value.isSequence := funext fun v => if_pos hseq
    rw [if_pos (beq_iff_eq.2 hseq), hof, ← Blackboard.isSome_sequence? h hnull]
    rfl
  · have hof : Binding.isOf w.registry kind = fun v => ((Blackboard.fits v.value kind v.label).run w.registry).1 :=
      funext fun v => (if_neg hseq).trans (Blackboard.run_fits ..).symm
    rw [if_neg (mt beq_iff_eq.1 hseq), hof, ← Blackboard.isSome_value? h hnull]
    rfl

/-- After some actions, a condition has this truth value in a world: when it is asked for, and in the state that is
supplied if it is known. -/
structure SaysIn (r : Resolution κ) (history : List String) (s : Session World) (n : Name) (t : Truth) : Prop where
  asked : (((r.resolver history).ask n).outcome s).1 = .ok t
  stated : n ∈ r.known → ∀ (u : Session World) (x : Facts), (r.resolver history).state.outcome s = (.ok x, u) →
    x.get? n = some t

theorem saysIn_of_result_read {s : Session World} {n : Name} {t : Truth} (hd : r.known.Nodup)
    (h : ∀ early, (r.read history s.world early n.shown).result = .ok t) : r.SaysIn history s n t where
  asked := by
    show ((r.determine history false n).outcome s).1 = .ok t
    rw [outcome_determine, h]
  stated hn u x hx := by
    obtain ⟨v, hv, hget⟩ := result_read_of_state hd hx hn
    cases (h true).symm.trans hv
    exact hget

/-- Conditions about bindings say what was bound. Let some values other than nothing be bound in turn on an empty
blackboard, where a label on a value that is no mapping, whichever kinds are adopted as kinds of mappings, fails and
leaves everything as it was. Then for a variable without a colon and a kind, neither of them empty, `x:Kind` holds just
if the latest value bound to `x` answers to the kind or has it for a label, and `it:Kind` and `all:Kind` hold just if
any value bound so far does; the kind `List` asks for a sequence instead. Otherwise the condition does not hold: it is
never left open and its reading never fails. -/
theorem saysIn_bindAll (d : Domain κ) (conditions : List (Condition κ)) (deferAbove : Option κ) (history : List String)
    (adopted : List KindLabel) {s t : Session World} (hs : s.world.blackboard = .empty) (ws : List Binding)
    (hnull : ∀ w ∈ ws, w.value ≠ .null) (ht : t.world.blackboard = (s.bindAll adopted ws).world.blackboard) :
    (∀ w : Binding, w.refused adopted = true → ∀ u : Session World,
      (w.perform adopted).outcome u = (.error (.notLabelled w.value.kindName), u)) ∧
    ∀ var kind : String, var ≠ "" → ':' ∉ var.toList → kind ≠ "" →
      (var ∉ Blackboard.wildcards → (Resolution.ofDomain d conditions deferAbove).SaysIn history t
        (var ++ ":" ++ kind)
        (.ofBool ((Binding.latest? var (Binding.accepted adopted ws)).any (Binding.isOf t.world.registry kind)))) ∧
      (var ∈ Blackboard.wildcards → (Resolution.ofDomain d conditions deferAbove).SaysIn history t
        (var ++ ":" ++ kind)
        (.ofBool ((Binding.accepted adopted ws).any (Binding.isOf t.world.registry kind)))) := by
  refine ⟨fun w hw u => Binding.perform_of_refused hw u, fun var kind hvar hcolon hkind => ?_⟩
  have hrecords : t.world.blackboard.Records (Binding.accepted adopted ws) := by
    rw [ht]
    exact Session.records_bindAll (hs ▸ Blackboard.records_empty) adopted ws
  have hnull' : ∀ w ∈ Binding.accepted adopted ws, w.value ≠ .null := fun w hw => hnull w (List.mem_filter.1 hw).1
  have hd : (Resolution.ofDomain d conditions deferAbove).known.Nodup := Name.nodup_sort (nodup_eraseDups _)
  have hread (early : Bool) :
      ((Resolution.ofDomain d conditions deferAbove).read history t.world early (var ++ ":" ++ kind)).result = _ :=
    result_read_binding hrecords hnull' hvar hcolon hkind
  have hsays := saysIn_of_result_read (n := .text (var ++ ":" ++ kind)) hd hread
  constructor
  · intro hwild
    rwa [List.contains_eq_mem, decide_eq_false hwild, Bool.false_and, Bool.or_false] at hsays
  · intro hwild
    rwa [List.contains_eq_mem, decide_eq_true hwild, Bool.true_and,
      Bool.or_eq_right_iff_imp.2 Binding.any_of_any_latest?] at hsays

end Resolution

namespace Story

/-! A draft of a story has a label, the story that takes its place has none, and the label that a text is to have after
that is refused. The troupe is a mapping that is not made of one, and the credits are of a kind that counts as one by
adoption. -/

/-- A kind declared below the one that mappings of any make stand below. -/
def troupe : Kind := ⟨⟨"Troupe", "stage.Troupe", 1⟩, Kind.abstractMapping.lineage⟩

def credits : Kind := ⟨⟨"Credits", "stage.Credits", 2⟩, []⟩

def told : List Binding :=
  [.bind "story" (.mapping []) (some "Draft"), .assign "story" (.text "once"), .bind "story" (.text "") (some "Draft"),
    .bind "troupe" (.object troupe (.text "first")) (some "Names"), .add (.object credits (.text "last")) (some "Thanks"),
    .append (.tuple [])]

def start : Session World := ⟨.empty, #[]⟩

def resolution : Resolution Rat := .ofDomain ⟨[], [], by simp, by simp⟩ [] none

end Story

open Story in
/-- The story is no draft any more, but one was bound, and so were names, thanks and a sequence; neither the label nor
the kind of the troupe is lost. -/
theorem saysIn_bindAll_story :
    (((Binding.bind "story" (.text "") (some "Draft")).perform [credits.label]).outcome start).1 =
        .error (.notLabelled "str") ∧
      Kind.declare? troupe.label [Kind.abstractMapping] = some troupe ∧
      resolution.SaysIn [] (start.bindAll [credits.label] told) "story:Draft" .no ∧
      resolution.SaysIn [] (start.bindAll [credits.label] told) "story:str" .yes ∧
      resolution.SaysIn [] (start.bindAll [credits.label] told) "all:Draft" .yes ∧
      resolution.SaysIn [] (start.bindAll [credits.label] told) "troupe:Names" .yes ∧
      resolution.SaysIn [] (start.bindAll [credits.label] told) "troupe:Mapping" .yes ∧
      resolution.SaysIn [] (start.bindAll [credits.label] told) "it:Thanks" .yes ∧
      resolution.SaysIn [] (start.bindAll [credits.label] told) "it:List" .yes := by
  have hnull : ∀ w ∈ told, w.value ≠ .null := by
    simp [told, Binding.value]
  obtain ⟨hrefused, h⟩ := Resolution.saysIn_bindAll (κ := Rat) ⟨[], [], by simp, by simp⟩ [] none [] [credits.label]
    (s := start) (t := start.bindAll [credits.label] told) rfl told hnull rfl
  refine ⟨?_, rfl, ?_, ?_, ?_, ?_, ?_, ?_, ?_⟩
  · rw [hrefused _ rfl]
    rfl
  · exact (h "story" "Draft" (by decide) (by decide) (by decide)).1 (by decide)
  · exact (h "story" "str" (by decide) (by decide) (by decide)).1 (by decide)
  · exact (h "all" "Draft" (by decide) (by decide) (by decide)).2 (by decide)
  · exact (h "troupe" "Names" (by decide) (by decide) (by decide)).1 (by decide)
  · exact (h "troupe" "Mapping" (by decide) (by decide) (by decide)).1 (by decide)
  · exact (h "it" "Thanks" (by decide) (by decide) (by decide)).2 (by decide)
  · exact (h "it" "List" (by decide) (by decide) (by decide)).2 (by decide)

end GoalPlanner
