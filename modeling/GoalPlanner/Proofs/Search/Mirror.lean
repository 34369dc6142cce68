import GoalPlanner.Proofs.Search.Turn
import Mathlib

/-!
# Searches that mirror each other

Two search problems mirror each other (`Problem.Mirrors`) if their nodes and actions are related in such a way that a
search cannot tell related ones apart: related actions lead from related nodes to related nodes, cost the same and bear
the same label, and the estimate of related nodes is the same. If a node is related to one node at most on either side,
searches in such problems run in lockstep (`mirrors_run`): the queues have one shape, so the same entries come out
(`Queue.Mirrors.pop?`), and related nodes have the same costs, related links, and are closed together. Hence both find
a way or neither does, and the ways have related actions (`Mirrors.way?`).

No law of the costs is used, so this holds of floats as well.
-/

namespace GoalPlanner

open Relator (BiUnique)
open scoped Relator

/-! ## Queues -/

namespace Queue

variable {α β : Type} {R : α → β → Prop}

/-- Queues of one shape with related members in the same places. -/
inductive Mirrors (R : α → β → Prop) : Queue α → Queue β → Prop
  | empty : Mirrors R .empty .empty
  | node {n : Nat} {x : α} {y : β} {l r : Queue α} {l' r' : Queue β} : R x y → Mirrors R l l' → Mirrors R r r' →
      Mirrors R (.node n x l r) (.node n y l' r')

namespace Mirrors

theorem rank {q : Queue α} {q' : Queue β} (h : Mirrors R q q') : q.rank = q'.rank := by
  cases h <;> rfl

theorem size {q : Queue α} {q' : Queue β} (h : Mirrors R q q') : q.size = q'.size := by
  induction h with
  | empty => rfl
  | node _ _ _ ihl ihr => rw [Queue.size, Queue.size, ihl, ihr]

theorem join {x : α} {y : β} {p q : Queue α} {p' q' : Queue β} (hx : R x y) (hp : Mirrors R p p')
    (hq : Mirrors R q q') : Mirrors R (Queue.join x p q) (Queue.join y p' q') := by
  unfold Queue.join
  rw [hp.rank, hq.rank]
  split
  · exact .node hx hp hq
  · exact .node hx hq hp

variable {before : α → α → Bool} {before' : β → β → Bool}

/-- Queues of one shape are merged alike if the orders agree on related members. -/
theorem merge (hb : (R ⇒ R ⇒ Eq) before before') {p q : Queue α} {p' q' : Queue β} (hp : Mirrors R p p')
    (hq : Mirrors R q q') : Mirrors R (Queue.merge before p q) (Queue.merge before' p' q') := by
  fun_induction Queue.merge before p q generalizing p' q' with
  | case1 q =>
    cases hp
    rw [Queue.merge]
    exact hq
  | case2 p =>
    cases hq
    cases hp with
    | empty =>
      rw [Queue.merge]
      exact .empty
    | node hx hl hr =>
      rw [Queue.merge]
      · exact .node hx hl hr
      · intro h
        cases h
  | case3 m x l r n y l₁ r₁ hyx ih =>
    cases hp with
    | node hx hl hr =>
      cases hq with
      | node hy hl₁ hr₁ =>
        rw [Queue.merge, ← hb hy hx, if_pos hyx]
        exact join hy hl₁ (ih (.node hx hl hr) hr₁)
  | case4 m x l r n y l₁ r₁ hyx ih =>
    cases hp with
    | node hx hl hr =>
      cases hq with
      | node hy hl₁ hr₁ =>
        rw [Queue.merge, ← hb hy hx, if_neg hyx]
        exact join hx hl (ih hr (.node hy hl₁ hr₁))

theorem push (hb : (R ⇒ R ⇒ Eq) before before') {x : α} {y : β} {q : Queue α} {q' : Queue β} (hx : R x y)
    (hq : Mirrors R q q') : Mirrors R (Queue.push before x q) (Queue.push before' y q') :=
  merge hb (.node hx .empty .empty) hq

/-- From queues of one shape related members come out, and queues of one shape stay. -/
theorem pop? (hb : (R ⇒ R ⇒ Eq) before before') {q : Queue α} {q' : Queue β} (hq : Mirrors R q q') :
    Option.Rel (fun u v => R u.1 v.1 ∧ Mirrors R u.2 v.2) (Queue.pop? before q) (Queue.pop? before' q') := by
  cases hq with
  | empty => exact .none
  | node hx hl hr => exact .some ⟨hx, merge hb hl hr⟩

end Mirrors

end Queue

/-! ## Problems -/

section

variable {σ τ α β κ : Type} {R : σ → τ → Prop} {A : α → β → Prop}

/-- Related nodes are equal together. -/
theorem beq_eq_of_biUnique [BEq σ] [LawfulBEq σ] [BEq τ] [LawfulBEq τ] (hR : BiUnique R) {m m' : σ} {n n' : τ}
    (h : R m n) (h' : R m' n') : (m == m') = (n == n') := by
  rw [Bool.eq_iff_iff, beq_iff_eq, beq_iff_eq]
  exact ⟨fun e => hR.2 (e ▸ h) h', fun e => hR.1 (e ▸ h) h'⟩

/-- Problems that look alike to a search through related nodes by related actions. -/
structure Problem.Mirrors (R : σ → τ → Prop) (A : α → β → Prop) (p : Problem σ α κ) (q : Problem τ β κ) : Prop where
  start : R p.start q.start
  actions : List.Forall₂ A p.actions q.actions
  next : ∀ {a b m n}, A a b → R m n → Option.Rel R (p.next a m) (q.next b n)
  cost : ∀ {a b}, A a b → p.cost a = q.cost b
  label : ∀ {a b}, A a b → p.label a = q.label b
  estimate : ∀ {m n}, R m n → p.estimate m = q.estimate n
  done : ∀ {m n}, R m n → p.done m = q.done n

/-- Entries with related nodes that are the same otherwise. -/
structure Entry.Mirrors (R : σ → τ → Prop) (d : Entry σ κ) (e : Entry τ κ) : Prop where
  bound : d.bound = e.bound
  label : d.label = e.label
  number : d.number = e.number
  cost : d.cost = e.cost
  node : R d.node e.node

/-- Related entries come out in the same order. -/
theorem Entry.Mirrors.before [Cost κ] :
    (Mirrors R ⇒ Mirrors R ⇒ Eq) (Entry.before (σ := σ) (κ := κ)) (Entry.before (σ := τ) (κ := κ)) := by
  intro d d' hd e e' he
  simp only [Entry.before, hd.bound, hd.label, hd.number, he.bound, he.label, he.number]

/-- Links by related actions from related nodes. -/
structure Search.LinkMirrors (R : σ → τ → Prop) (A : α → β → Prop) (l : σ × α) (k : τ × β) : Prop where
  source : R l.1 k.1
  action : A l.2 k.2

end

namespace Search

variable {σ τ α β κ : Type} [BEq σ] [Hashable σ] [BEq τ] [Hashable τ] {R : σ → τ → Prop} {A : α → β → Prop}

/-! ## Searches -/

/-- Searches of one shape that say the same of related nodes. -/
structure Mirrors (R : σ → τ → Prop) (A : α → β → Prop) (s : Search σ α κ) (t : Search τ β κ) : Prop where
  queue : s.queue.Mirrors (Entry.Mirrors R) t.queue
  costs : ∀ {m n}, R m n → s.costs[m]? = t.costs[n]?
  links : ∀ {m n}, R m n → Option.Rel (LinkMirrors R A) s.links[m]? t.links[n]?
  /-- Both hold as many links, and so read back as many. -/
  size : s.links.size = t.links.size
  closed : ∀ {m n}, R m n → s.closed.contains m = t.closed.contains n
  best : Option.Rel (fun x y => R x.1 y.1 ∧ x.2 = y.2) s.best t.best
  made : s.made = t.made
  steps : s.steps = t.steps

namespace Mirrors

variable {s : Search σ α κ} {t : Search τ β κ}

theorem cut (h : Mirrors R A s t) (limit : Nat) : s.cut limit = t.cut limit := by
  rw [Search.cut, Search.cut, h.queue.size, h.steps]

theorem taken (h : Mirrors R A s t) {rest : Queue (Entry σ κ)} {rest' : Queue (Entry τ κ)}
    (hr : rest.Mirrors (Entry.Mirrors R) rest') : Mirrors R A (s.taken rest) (t.taken rest') :=
  { h with queue := hr, steps := congrArg (· + 1) h.steps }

/-! ## The way found -/

/-- Links of related nodes lead back over related actions. -/
theorem wayTo (h : Mirrors R A s t) (fuel : Nat) {m : σ} {n : τ} (hmn : R m n) {as : List α} {bs : List β}
    (hab : List.Forall₂ A as bs) :
    List.Forall₂ A (Search.wayTo s.links fuel m as) (Search.wayTo t.links fuel n bs) := by
  induction fuel generalizing m n as bs with
  | zero => exact hab
  | succ fuel ih =>
    have hl := h.links hmn
    rw [Search.wayTo, Search.wayTo]
    generalize s.links[m]? = x at hl
    generalize t.links[n]? = y at hl
    cases hl with
    | none => exact hab
    | some hxy => exact ih hxy.source (.cons hxy.action hab)

/-- The ways found by searches that mirror each other have related actions. -/
theorem way? (h : Mirrors R A s t) : Option.Rel (List.Forall₂ A) s.way? t.way? := by
  have hb := h.best
  unfold Search.way?
  rw [h.size]
  generalize s.best = x at hb
  generalize t.best = y at hb
  cases hb with
  | none => exact .none
  | some hxy => exact .some (h.wayTo _ hxy.1 .nil)

/-! ## The tests -/

section

variable [Cost κ]

theorem outbid (h : Mirrors R A s t) (c : κ) : s.outbid c = t.outbid c := by
  have hb := h.best
  unfold Search.outbid
  generalize s.best = x at hb
  generalize t.best = y at hb
  cases hb with
  | none => rfl
  | some hxy => simp only [hxy.2]

theorem stale (h : Mirrors R A s t) {d : Entry σ κ} {e : Entry τ κ} (he : Entry.Mirrors R d e) :
    s.stale d = t.stale e := by
  rw [Search.stale, Search.stale, h.costs he.node, he.cost]

theorem improves (h : Mirrors R A s t) {m : σ} {n : τ} (hmn : R m n) (c : κ) : s.improves m c = t.improves n c := by
  rw [Search.improves, Search.improves, h.costs hmn]

end

/-! ## Turns -/

variable [LawfulBEq σ] [LawfulBEq τ]

theorem close (h : Mirrors R A s t) (hR : BiUnique R) {m : σ} {n : τ} (hmn : R m n) :
    Mirrors R A (s.close m) (t.close n) :=
  { h with
    closed := fun {m' n'} hmn' => by
      simp only [Search.close, Std.HashSet.contains_insert, h.closed hmn', beq_eq_of_biUnique hR hmn hmn'] }

theorem settle (h : Mirrors R A s t) (hR : BiUnique R) {m : σ} {n : τ} (hmn : R m n) (c : κ) :
    Mirrors R A (s.settle m c) (t.settle n c) :=
  { h.close hR hmn with best := .some ⟨hmn, rfl⟩ }

variable [Cost κ] {p : Problem σ α κ} {q : Problem τ β κ}

/-- Related nodes are reached alike. -/
theorem reach (h : Mirrors R A s t) (hR : BiUnique R) (hpq : p.Mirrors R A q) {m m' : σ} {n n' : τ} {a : α}
    {b : β} (hmn : R m n) (hab : A a b) (hmn' : R m' n') (c : κ) :
    Mirrors R A (s.reach p m a m' c) (t.reach q n b n' c) where
  queue := by
    refine h.queue.push Entry.Mirrors.before ?_
    exact ⟨by rw [hpq.estimate hmn'], hpq.label hab, h.made, rfl, hmn'⟩
  costs {x y} hxy := by
    simp only [Search.reach, Std.HashMap.getElem?_insert, beq_eq_of_biUnique hR hmn' hxy, h.costs hxy]
  links {x y} hxy := by
    rw [links_reach, links_reach, beq_eq_of_biUnique hR hmn' hxy]
    split
    · exact .some ⟨hmn, hab⟩
    · exact h.links hxy
  size := by
    have hmem : m' ∈ s.links ↔ n' ∈ t.links := by
      have hl := h.links hmn'
      rw [Std.HashMap.mem_iff_isSome_getElem?, Std.HashMap.mem_iff_isSome_getElem?]
      generalize s.links[m']? = x at hl
      generalize t.links[n']? = y at hl
      cases hl <;> rfl
    simp only [Search.reach, Std.HashMap.size_insert, hmem, h.size]
  closed {x y} hxy := by
    simp only [Search.reach, Std.HashSet.contains_erase, beq_eq_of_biUnique hR hmn' hxy, h.closed hxy]
  best := h.best
  made := congrArg (· + 1) h.made
  steps := h.steps

theorem attempt (h : Mirrors R A s t) (hR : BiUnique R) (hpq : p.Mirrors R A q) {m : σ} {n : τ} {a : α}
    {b : β} (hmn : R m n) (hab : A a b) (c : κ) : Mirrors R A (attempt p m c s a) (attempt q n c t b) := by
  have hn := hpq.next hab hmn
  unfold Search.attempt
  generalize p.next a m = x at hn
  generalize q.next b n = y at hn
  cases hn with
  | none => exact h
  | some hxy =>
    simp only [hpq.cost hab, beq_eq_of_biUnique hR hxy hmn, h.outbid, h.improves hxy]
    split
    · exact h
    · exact h.reach hR hpq hmn hab hxy _

theorem expand (h : Mirrors R A s t) (hR : BiUnique R) (hpq : p.Mirrors R A q) {m : σ} {n : τ} (hmn : R m n)
    (c : κ) : Mirrors R A (s.expand p m c) (t.expand q n c) := by
  have hattempt : (Mirrors R A ⇒ A ⇒ Mirrors R A) (Search.attempt p m c) (Search.attempt q n c) :=
    fun _ _ h _ _ hab => h.attempt hR hpq hmn hab c
  exact List.rel_foldl hattempt h hpq.actions

theorem follow (h : Mirrors R A s t) (hR : BiUnique R) (hpq : p.Mirrors R A q) {d : Entry σ κ} {e : Entry τ κ}
    (he : Entry.Mirrors R d e) : Mirrors R A (follow p s d) (follow q t e) := by
  unfold Search.follow
  rw [h.stale he, he.cost, h.outbid, h.closed he.node, hpq.done he.node]
  split
  · exact h
  · dsimp only
    split
    · exact h.settle hR he.node _
    · exact (h.close hR he.node).expand hR hpq he.node _

/-- Searches that mirror each other take a turn together, and mirror each other after it. -/
theorem step (h : Mirrors R A s t) (hR : BiUnique R) (hpq : p.Mirrors R A q) :
    Option.Rel (Mirrors R A) (step p s) (step q t) := by
  have hpop := h.queue.pop? Entry.Mirrors.before
  unfold Search.step
  generalize s.queue.pop? Entry.before = x at hpop
  generalize t.queue.pop? Entry.before = y at hpop
  cases hpop with
  | none => exact .none
  | some hxy => exact .some ((h.taken hxy.2).follow hR hpq hxy.1)

/-! ## Runs -/

theorem iterate (h : Mirrors R A s t) (hR : BiUnique R) (hpq : p.Mirrors R A q) (limit : Nat) :
    Mirrors R A (iterate p limit s) (iterate q limit t) := by
  induction limit generalizing s t with
  | zero => exact h
  | succ limit ih =>
    have hs := h.step hR hpq
    rw [Search.iterate, Search.iterate]
    generalize Search.step p s = x at hs
    generalize Search.step q t = y at hs
    cases hs with
    | none => exact h
    | some hxy => exact ih hxy

end Mirrors

variable [LawfulBEq σ] [LawfulBEq τ] [Cost κ] {p : Problem σ α κ} {q : Problem τ β κ}

theorem mirrors_init (hR : BiUnique R) (hpq : p.Mirrors R A q) : Mirrors R A (init p) (init q) where
  queue := Queue.Mirrors.empty.push Entry.Mirrors.before
    ⟨hpq.estimate hpq.start, rfl, rfl, rfl, hpq.start⟩
  costs {m n} hmn := by
    simp only [init, Std.HashMap.getElem?_insert, beq_eq_of_biUnique hR hpq.start hmn, Std.HashMap.getElem?_empty]
  links _ := by
    simp only [init, Std.HashMap.getElem?_empty]
    exact .none
  size := by simp only [init, Std.HashMap.size_empty]
  closed _ := by simp only [init, Std.HashSet.contains_empty]
  best := .none
  made := rfl
  steps := rfl

/-- Searches in problems that mirror each other run in lockstep. -/
theorem mirrors_run (hR : BiUnique R) (hpq : p.Mirrors R A q) (limit : Nat) :
    Mirrors R A (run p limit) (run q limit) :=
  (mirrors_init hR hpq).iterate hR hpq limit

end Search

end GoalPlanner
