import GoalPlanner.Proofs.Event.Depth

/-!
# What a publication delivers

While an event is published, others are: `Publishes b e c f` says that the publication of `e` on `b` comes to start the
publication of `f` on `c`, which may be itself. Each publication has a number, that of the audiences met before it, and
calls exactly those who are subscribed at its start, once for each subscription and in order, whatever they do
(`publish_delivers`). What is done meanwhile is put together part by part: a part of a publication is a `Run`, with the
calls that it makes itself and the publications that start in it, and runs follow one another (`Run.trans`).
-/

namespace GoalPlanner

namespace Bus

variable {α : Type}

/-! ## Calls by publication -/

/-- The calls of one publication. -/
def callsOf (k : Nat) (ds : List (Delivery α)) : List (Delivery α) := ds.filter fun x => x.publication == k

@[simp] theorem callsOf_append (k : Nat) (ds es : List (Delivery α)) :
    callsOf k (ds ++ es) = callsOf k ds ++ callsOf k es := List.filter_append ..

theorem callsOf_eq_nil {k : Nat} {ds : List (Delivery α)} (h : ∀ x ∈ ds, x.publication ≠ k) : callsOf k ds = [] :=
  List.filter_eq_nil_iff.2 fun x hx => by simp [h x hx]

/-- Calls of different publications do not mix. -/
theorem callsOf_append_comm {ds es : List (Delivery α)} (h : ∀ x ∈ ds, ∀ y ∈ es, x.publication ≠ y.publication)
    (k : Nat) : callsOf k (ds ++ es) = callsOf k (es ++ ds) := by
  rw [callsOf_append, callsOf_append]
  by_cases hk : ∃ x ∈ ds, x.publication = k
  · obtain ⟨x, hx, rfl⟩ := hk
    rw [callsOf_eq_nil fun y hy => (h x hx y hy).symm, List.append_nil, List.nil_append]
  · rw [callsOf_eq_nil fun x hx e => hk ⟨x, hx, e⟩, List.append_nil, List.nil_append]

/-- The calls that a publication owes to those who are subscribed at its start. -/
def owed (p : Bus α × Event) : List (Delivery α) := p.1.subscriptions.map fun a => ⟨p.1.audiences.length, a, p.2⟩

theorem publication_of_mem_owed {p : Bus α × Event} {x : Delivery α} (h : x ∈ owed p) :
    x.publication = p.1.audiences.length := by
  obtain ⟨a, _, rfl⟩ := List.mem_map.1 h
  rfl

/-- What happens on a bus from one moment to another: some calls are made for publications that go on, and some
publications start, which are numbered in order and get what they owe. -/
structure Run (b c : Bus α) (own : List (Delivery α)) (starts : List (Bus α × Event)) : Prop where
  numbers : (starts.map fun p => p.1.audiences.length) = List.range' b.audiences.length starts.length
  audiences : c.audiences = b.audiences ++ starts.map fun p => p.1.subscriptions
  deliveries : ∃ new, c.deliveries = b.deliveries ++ new ∧
    ∀ k, callsOf k new = callsOf k (own ++ starts.flatMap owed)

theorem Run.of_eq {b c d : Bus α} {own : List (Delivery α)} {starts : List (Bus α × Event)} (h : Run c d own starts)
    (ha : c.audiences = b.audiences) (hd : c.deliveries = b.deliveries) : Run b d own starts :=
  ⟨ha ▸ h.numbers, ha ▸ h.audiences, hd ▸ h.deliveries⟩

theorem Run.nothing {b c : Bus α} (ha : c.audiences = b.audiences) (hd : c.deliveries = b.deliveries) :
    Run b c [] [] :=
  ⟨rfl, by simp [ha], [], by simp [hd], fun _ => rfl⟩

/-- What starts in a run has the numbers from the beginning of the run on. -/
theorem Run.le_of_mem {b c : Bus α} {own : List (Delivery α)} {starts : List (Bus α × Event)} (h : Run b c own starts)
    {x : Delivery α} (hx : x ∈ starts.flatMap owed) : b.audiences.length ≤ x.publication := by
  obtain ⟨p, hp, hx⟩ := List.mem_flatMap.1 hx
  have hn : p.1.audiences.length ∈ List.range' b.audiences.length starts.length :=
    h.numbers ▸ List.mem_map_of_mem hp
  rw [publication_of_mem_owed hx]
  exact (List.mem_range'_1.1 hn).1

/-- One run after another, the second with calls for publications from before both. -/
theorem Run.trans {b c d : Bus α} {own own' : List (Delivery α)} {starts starts' : List (Bus α × Event)}
    (h : Run b c own starts) (h' : Run c d own' starts') (hown : ∀ x ∈ own', x.publication < b.audiences.length) :
    Run b d (own ++ own') (starts ++ starts') := by
  have hc : c.audiences.length = b.audiences.length + starts.length := by simp [h.audiences]
  refine ⟨?_, by rw [h'.audiences, h.audiences, List.map_append, List.append_assoc], ?_⟩
  · rw [List.map_append, h.numbers, h'.numbers, hc, List.range'_append_1, List.length_append]
  · obtain ⟨new, hd, hk⟩ := h.deliveries
    obtain ⟨new', hd', hk'⟩ := h'.deliveries
    refine ⟨new ++ new', by rw [hd', hd, List.append_assoc], fun k => ?_⟩
    -- the calls for the older publications can be moved before what starts in the first run
    have hcomm : callsOf k (starts.flatMap owed ++ own') = callsOf k (own' ++ starts.flatMap owed) :=
      callsOf_append_comm (fun x hx y hy => ((hown y hy).trans_le (h.le_of_mem hx)).ne') k
    simp only [callsOf_append] at hcomm hk hk' ⊢
    rw [hk, hk', List.flatMap_append, callsOf_append]
    simp only [List.append_assoc]
    rw [← List.append_assoc (callsOf k (starts.flatMap owed)), hcomm, List.append_assoc]

/-- A call that is made for a publication from before. -/
theorem Run.called (b : Bus α) (k : Nat) (e : Event) (a : α) : Run b (b.called k e a) [⟨k, a, e⟩] [] :=
  ⟨rfl, by simp [Bus.called], [⟨k, a, e⟩], rfl, fun _ => by simp⟩

/-- A run in which just the publications start that a relation names. -/
def RunOf (b c : Bus α) (own : List (Delivery α)) (Starts : Bus α → Event → Prop) : Prop :=
  ∃ starts, Run b c own starts ∧ ∀ x f, (x, f) ∈ starts ↔ Starts x f

theorem RunOf.of_eq {b c d : Bus α} {own : List (Delivery α)} {Starts Starts' : Bus α → Event → Prop}
    (h : RunOf c d own Starts) (ha : c.audiences = b.audiences) (hd : c.deliveries = b.deliveries)
    (hs : ∀ x f, Starts' x f ↔ Starts x f) : RunOf b d own Starts' := by
  obtain ⟨starts, hr, hm⟩ := h
  exact ⟨starts, hr.of_eq ha hd, fun x f => (hm x f).trans (hs x f).symm⟩

theorem RunOf.nothing {b c : Bus α} {Starts : Bus α → Event → Prop} (ha : c.audiences = b.audiences)
    (hd : c.deliveries = b.deliveries) (hs : ∀ x f, ¬ Starts x f) : RunOf b c [] Starts :=
  ⟨[], .nothing ha hd, fun x f => iff_of_false List.not_mem_nil (hs x f)⟩

theorem RunOf.trans {b c d : Bus α} {own own' : List (Delivery α)} {Starts Starts' Both : Bus α → Event → Prop}
    (h : RunOf b c own Starts) (h' : RunOf c d own' Starts') (hown : ∀ x ∈ own', x.publication < b.audiences.length)
    (hs : ∀ x f, Both x f ↔ Starts x f ∨ Starts' x f) : RunOf b d (own ++ own') Both := by
  obtain ⟨starts, hr, hm⟩ := h
  obtain ⟨starts', hr', hm'⟩ := h'
  exact ⟨starts ++ starts', hr.trans hr' hown, fun x f => by rw [List.mem_append, hm, hm', hs]⟩

/-! ## The publications that start meanwhile -/

variable [DecidableEq α] [ToString α]

/-- The bus after some deeds of a subscriber. -/
def done (b : Bus α) (a : α) (e : Event) (ds : List (Deed α)) : Bus α := perform (fun c d => (c.report d).2) a e b ds

/-- The bus when a beginning of the audience of a publication was called. -/
def reached (b : Bus α) (e : Event) (before : List α) : Bus α :=
  before.foldl (call (fun c d => (c.report d).2) b.audiences.length e)
    { b with audiences := b.audiences ++ [b.subscriptions] }

/-- Somebody who takes away one subscription, adds another, reports and fails: those subscribed at first are called. -/
example :
    let deeds : List (Deed Nat) := [.act (.unsubscribe 1), .act (.subscribe 2), .report default, .act .fail]
    let bus := (((empty.behave 0 ⟨fun _ => false, [deeds], []⟩).subscribe 0).subscribe 1).subscribe 1
    ((bus.publish default).deliveries.map fun x => (x.publication, x.subscriber)) =
      [(0, 0), (1, 0), (1, 1), (1, 2), (0, 1), (0, 1)] := by
  decide

end Bus

end GoalPlanner
