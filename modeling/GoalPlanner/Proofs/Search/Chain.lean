import GoalPlanner.Search

/-!
# Chains of links

The links of a search lead from a node back to a root without a link (`Chain`). A node has one chain at most
(`Chain.eq`), and the nodes that it passes are all different (`Chain.exists_trail`). So following the links back ends
(`Chain.rebuilds`), and reading them back with as much fuel as there are links gives the actions of the chain
(`wayTo_of_chain`); so does reading them back with fuel of which something is left over (`wayTo_of_length_lt`). A new
link keeps the chains of all nodes (`Chain.insert`), if the chain of its source does not pass through its target
(`Chain.insert_of_closed`).
-/

namespace GoalPlanner.Search

variable {σ α : Type} [BEq σ] [Hashable σ]

/-- The links lead from a node back to the root; the actions on the way, from the root. -/
inductive Chain (links : Std.HashMap σ (σ × α)) (root : σ) : σ → List α → Prop
  | root : links[root]? = none → Chain links root root []
  | link {n m : σ} {a : α} {as : List α} : links[n]? = some (m, a) → Chain links root m as →
      Chain links root n (as ++ [a])

/-- The links lead from a node back to the root, with the nodes that are passed, from the node to the root, and the
actions between them, from the root. -/
inductive Trail (links : Std.HashMap σ (σ × α)) (root : σ) : σ → List σ → List α → Prop
  | root : links[root]? = none → Trail links root root [root] []
  | link {n m : σ} {a : α} {ns : List σ} {as : List α} : links[n]? = some (m, a) → Trail links root m ns as →
      Trail links root n (n :: ns) (as ++ [a])

/-- Links are followed back from a node until there is none, and the action of each is put before those that come after
it: the actions that this comes to. -/
inductive Rebuilds (links : Std.HashMap σ (σ × α)) : σ → List α → List α → Prop
  | ends {n : σ} {after : List α} : links[n]? = none → Rebuilds links n after after
  | back {n m : σ} {a : α} {after way : List α} : links[n]? = some (m, a) → Rebuilds links m (a :: after) way →
      Rebuilds links n after way

variable {links : Std.HashMap σ (σ × α)} {root : σ}

theorem Chain.unlinked {n : σ} {as : List α} (h : Chain links root n as) : links[root]? = none := by
  induction h with
  | root h => exact h
  | link _ _ ih => exact ih

/-- The links decide the chain of a node. -/
theorem Chain.eq {n : σ} {as bs : List α} (h : Chain links root n as) (k : Chain links root n bs) : as = bs := by
  induction h generalizing bs with
  | root h =>
    cases k with
    | root => rfl
    | link hl => rw [h] at hl; cases hl
  | link hl _ ih =>
    cases k with
    | root k => rw [hl] at k; cases k
    | link hl' k =>
      rw [hl] at hl'
      cases hl'
      rw [ih k]

/-- Following the links back from a node with a chain ends with the actions of the chain. -/
theorem Chain.rebuilds {n : σ} {as : List α} (h : Chain links root n as) (after : List α) :
    Rebuilds links n after (as ++ after) := by
  induction h generalizing after with
  | root h => exact .ends h
  | @link n m a as hl _ ih =>
    rw [List.append_assoc, List.singleton_append]
    exact .back hl (ih (a :: after))

theorem Trail.length_eq {n : σ} {ns : List σ} {as : List α} (h : Trail links root n ns as) :
    ns.length = as.length + 1 := by
  induction h with
  | root => rfl
  | link _ _ ih => rw [List.length_cons, ih, List.length_append, List.length_singleton]

/-- Reading the links back from a node gives the actions of its chain. -/
theorem wayTo_of_chain {n : σ} {as : List α} (h : Chain links root n as) {fuel : Nat} (hf : as.length ≤ fuel)
    (after : List α) : wayTo links fuel n after = as ++ after := by
  induction h generalizing fuel after with
  | root h =>
    cases fuel with
    | zero => rfl
    | succ fuel => simp [wayTo, h]
  | @link n m a as hl _ ih =>
    simp only [List.length_append, List.length_cons, List.length_nil] at hf
    cases fuel with
    | zero => omega
    | succ fuel =>
      rw [wayTo, hl]
      simp only
      rw [ih (by omega), List.append_assoc, List.singleton_append]

/-- With too little fuel, the actions read back are as many as the fuel allows. -/
theorem length_wayTo_of_chain {n : σ} {as : List α} (h : Chain links root n as) {fuel : Nat} (hf : fuel ≤ as.length)
    (after : List α) : (wayTo links fuel n after).length = fuel + after.length := by
  induction h generalizing fuel after with
  | root =>
    obtain rfl := Nat.le_zero.1 hf
    rw [wayTo, Nat.zero_add]
  | @link n m a as hl _ ih =>
    cases fuel with
    | zero => rw [wayTo, Nat.zero_add]
    | succ fuel =>
      rw [List.length_append, List.length_singleton, Nat.add_le_add_iff_right] at hf
      rw [wayTo, hl]
      simp only
      rw [ih hf, List.length_cons]
      omega

/-- If fuel is left over, all of the chain has been read back. -/
theorem wayTo_of_length_lt {n : σ} {as : List α} (h : Chain links root n as) {fuel : Nat}
    (hf : (wayTo links fuel n []).length < fuel) : wayTo links fuel n [] = as := by
  by_cases hle : fuel ≤ as.length
  · rw [length_wayTo_of_chain h hle, List.length_nil] at hf
    omega
  · rw [wayTo_of_chain h (by omega), List.append_nil]

/-- The nodes that a chain passes are all different, and none of them has a longer chain. -/
theorem Chain.exists_trail {n : σ} {as : List α} (h : Chain links root n as) :
    ∃ ns, Trail links root n ns as ∧ ns.Nodup ∧ ∀ x ∈ ns, ∃ bs, Chain links root x bs ∧ bs.length ≤ as.length := by
  induction h with
  | root h =>
    refine ⟨[root], .root h, by simp, fun x hx => ?_⟩
    rw [List.mem_singleton.1 hx]
    exact ⟨[], .root h, Nat.le_refl 0⟩
  | @link n m a as hl hm ih =>
    obtain ⟨ns, ht, hnd, hch⟩ := ih
    have hn : Chain links root n (as ++ [a]) := .link hl hm
    refine ⟨n :: ns, .link hl ht, List.nodup_cons.2 ⟨fun hmn => ?_, hnd⟩, fun x hx => ?_⟩
    · -- the chain of `n` would be shorter than it is
      obtain ⟨bs, hb, hle⟩ := hch n hmn
      rw [hb.eq hn, List.length_append, List.length_singleton] at hle
      omega
    · rcases List.mem_cons.1 hx with rfl | hx
      · exact ⟨_, hn, Nat.le_refl _⟩
      · obtain ⟨bs, hb, hle⟩ := hch x hx
        exact ⟨bs, hb, by simp; omega⟩

variable [LawfulBEq σ]

/-- The nodes of a trail but the root are linked. -/
theorem Trail.mem {n : σ} {ns : List σ} {as : List α} (h : Trail links root n ns as) {x : σ} (hx : x ∈ ns) :
    x = root ∨ x ∈ links := by
  induction h with
  | root => exact Or.inl (List.mem_singleton.1 hx)
  | link hl _ ih =>
    rcases List.mem_cons.1 hx with rfl | hx
    · exact Or.inr (Std.HashMap.mem_iff_isSome_getElem?.2 (by rw [hl]; rfl))
    · exact ih hx

/-- A chain is no longer than there are links. -/
theorem Chain.length_le {n : σ} {as : List α} (h : Chain links root n as) : as.length ≤ links.size := by
  obtain ⟨ns, ht, hnd, -⟩ := h.exists_trail
  have hle : ns.length ≤ (root :: links.keys).length := hnd.length_le_of_subset fun x hx => by
    rw [List.mem_cons, Std.HashMap.mem_keys]
    exact ht.mem hx
  rw [ht.length_eq, List.length_cons, Std.HashMap.length_keys] at hle
  omega

/-- The way found is the chain of the best node. -/
theorem way?_of_chain {κ : Type} [Cost κ] {s : Search σ α κ} {n : σ} {b : κ} {as : List α} (hb : s.best = some (n, b))
    (h : Chain s.links root n as) : s.way? = some as := by
  simp [way?, hb, wayTo_of_chain h h.length_le]

/-- What can be read off a search: the best node, its cost and the actions that at most so many links lead back from
it; and whether nothing waits. -/
def readOff {κ : Type} [Cost κ] (fuel : Nat) (s : Search σ α κ) : Option (σ × κ × List α) × Bool :=
  (s.best.map fun (n, b) => (n, b, wayTo s.links fuel n []), s.queue.toList.isEmpty)

/-! ## New links -/

variable {n m : σ} {a : α}

/-- A chain that stays among nodes other than `n` does not notice a new link of `n`. -/
theorem Chain.insert_of_closed {P : σ → Prop} (hP : ∀ x y b, P x → links[x]? = some (y, b) → P y) (hn : ¬P n)
    {x : σ} {as : List α} (h : Chain links root x as) (hx : P x) : Chain (links.insert n (m, a)) root x as := by
  have other {y : σ} (hy : P y) : (n == y) = false := beq_eq_false_iff_ne.2 fun e => hn (e ▸ hy)
  induction h with
  | root h => exact .root (by simp [Std.HashMap.getElem?_insert, other hx, h])
  | link hl _ ih =>
    refine .link ?_ (ih (hP _ _ _ hx hl))
    simp [Std.HashMap.getElem?_insert, other hx, hl]

/-- After a new link to a node that has a chain, every node with a chain still has one. -/
theorem Chain.insert {as : List α} (hm : Chain (links.insert n (m, a)) root m as) {x : σ}
    {bs : List α} (h : Chain links root x bs) : ∃ cs, Chain (links.insert n (m, a)) root x cs := by
  induction h with
  | root => exact ⟨[], .root hm.unlinked⟩
  | @link x y b bs hl _ ih =>
    by_cases hx : n = x
    · exact ⟨as ++ [a], .link (by simp [hx]) hm⟩
    · obtain ⟨cs, hc⟩ := ih
      refine ⟨cs ++ [b], .link ?_ hc⟩
      simp [Std.HashMap.getElem?_insert, hx, hl]

end GoalPlanner.Search
