import GoalPlanner.Log
import Mathlib

/-!
# Capitals of capitals

A capital form that is written in ASCII has no other capital form (`capital_of_settled`): the letters outside ASCII
whose capitals are in ASCII, and the small letters of ASCII, are part of no capital form (`settled_of_mem_capital`). So
a text in capitals is a threshold of the log just if it is the very name of one (`Log.mem_thresholds`).
-/

namespace GoalPlanner.Text

/-- The letters outside ASCII whose capital form is in ASCII. -/
def asciiCapitals : List Nat := [223, 305, 383, 64256, 64257, 64258, 64259, 64260, 64261, 64262]

/-- Code points that are neither small letters of ASCII nor letters outside it with a capital form in ASCII. -/
def Settled (n : Nat) : Prop := (n < 97 ∨ 122 < n) ∧ n ∉ asciiCapitals

instance (n : Nat) : Decidable (Settled n) := inferInstanceAs (Decidable (_ ∧ _))

/-! ## Tables -/

theorem toUpper_settled : ∀ n < 128, Settled (Char.ofNat n).toUpper.toNat ∧
    (Settled n → (Char.ofNat n).toUpper = Char.ofNat n) := by
  decide +kernel

theorem longCapitals_settled : ∀ e ∈ longCapitals, ∀ n ∈ e.2, Settled (Char.ofNat n).toNat := by
  decide +kernel

theorem longCapitals_ascii : ∀ e ∈ longCapitals, (∀ n ∈ e.2, (Char.ofNat n).toNat < 128) → e.1 ∈ asciiCapitals := by
  decide +kernel

theorem capitalRuns_valid : ∀ r ∈ capitalRuns, 0 ≤ r.1 + r.2.2.2 ∧
    (r.2.1 + r.2.2.2 < 0xd800 ∨ 0xdfff < r.1 + r.2.2.2 ∧ r.2.1 + r.2.2.2 < 0x110000) := by
  decide +kernel

theorem capitalRuns_settled : ∀ r ∈ capitalRuns, (r.2.1 + r.2.2.2 < 97 ∨ 122 < r.1 + r.2.2.2) ∧
    ∀ n ∈ asciiCapitals, r.2.1 + r.2.2.2 < n ∨ n < r.1 + r.2.2.2 := by
  decide +kernel

theorem capitalRuns_ascii : ∀ r ∈ capitalRuns, r.1 + r.2.2.2 < 128 → r.1 = r.2.1 ∧ r.1 ∈ asciiCapitals := by
  decide +kernel

/-- The code point of a capital form in a run of letters. -/
theorem toNat_of_run {r : Nat × Nat × Nat × Int} (hr : r ∈ capitalRuns) {n : Nat} (hfirst : r.1 ≤ n)
    (hlast : n ≤ r.2.1) : ((Char.ofNat (n + r.2.2.2).toNat).toNat : Int) = n + r.2.2.2 := by
  obtain ⟨hpos, hrange⟩ := capitalRuns_valid r hr
  have hvalid : (n + r.2.2.2).toNat.isValidChar := by
    unfold Nat.isValidChar
    omega
  rw [Char.toNat_ofNat, if_pos hvalid]
  omega

/-! ## Characters -/

/-- A capital form is one of ASCII, stands in one of the two tables, or is the character itself. -/
theorem capital_cases (c : Char) :
    (c.toNat < 128 ∧ capital c = [c.toUpper]) ∨
    (∃ e ∈ longCapitals, e.1 = c.toNat ∧ capital c = e.2.map Char.ofNat) ∨
    (∃ r ∈ capitalRuns, r.1 ≤ c.toNat ∧ c.toNat ≤ r.2.1 ∧ capital c = [Char.ofNat (c.toNat + r.2.2.2).toNat]) ∨
    capital c = [c] := by
  unfold capital
  split
  · rename_i h
    exact .inl ⟨h, rfl⟩
  · split
    · rename_i n codes h
      refine .inr (.inl ⟨_, List.mem_of_find?_eq_some h, ?_, rfl⟩)
      simpa using List.find?_some h
    · split
      · rename_i first last step distance h
        have hc := List.find?_some h
        simp only [Bool.and_eq_true, decide_eq_true_eq] at hc
        exact .inr (.inr (.inl ⟨_, List.mem_of_find?_eq_some h, hc.1.1, hc.1.2, rfl⟩))
      · exact .inr (.inr (.inr rfl))

/-- What a capital form is made of is settled, unless it is a character without another form. -/
theorem settled_of_mem_capital {c d : Char} (h : d ∈ capital c) : capital d = [d] ∨ Settled d.toNat := by
  rcases capital_cases c with ⟨hc, he⟩ | ⟨e, hmem, -, he⟩ | ⟨r, hr, hfirst, hlast, he⟩ | he <;> rw [he] at h
  · obtain rfl := List.mem_singleton.1 h
    rw [← Char.ofNat_toNat c]
    exact .inr (toUpper_settled _ hc).1
  · obtain ⟨n, hn, rfl⟩ := List.mem_map.1 h
    exact .inr (longCapitals_settled e hmem n hn)
  · obtain rfl := List.mem_singleton.1 h
    obtain ⟨hsmall, hascii⟩ := capitalRuns_settled r hr
    have hcode := toNat_of_run hr hfirst hlast
    refine .inr ⟨by omega, fun hn => ?_⟩
    have := hascii _ hn
    omega
  · obtain rfl := List.mem_singleton.1 h
    exact .inl he

/-- A settled character has no other capital form in ASCII. -/
theorem capital_of_settled {d : Char} (h : Settled d.toNat) (hd : ∀ x ∈ capital d, x.toNat < 128) :
    capital d = [d] := by
  rcases capital_cases d with ⟨hc, he⟩ | ⟨e, hmem, hcode, he⟩ | ⟨r, hr, hfirst, hlast, he⟩ | he
  · rw [he, ← Char.ofNat_toNat d, (toUpper_settled _ hc).2 (by simpa using h)]
  · rw [he] at hd
    exact absurd (hcode ▸ longCapitals_ascii e hmem fun n hn => hd _ (List.mem_map_of_mem hn)) h.2
  · rw [he] at hd
    have hlt := hd _ (List.mem_singleton_self _)
    have hcode := toNat_of_run hr hfirst hlast
    obtain ⟨hone, hmem⟩ := capitalRuns_ascii r hr (by omega)
    exact absurd (by rwa [show d.toNat = r.1 by omega]) h.2
  · exact he

/-! ## Texts -/

/-- If the capitals of capitals are in ASCII, they are the capitals themselves. -/
theorem toCapitals_of_ascii {s : String} (h : ∀ c ∈ (toCapitals (toCapitals s)).toList, c.toNat < 128) :
    toCapitals (toCapitals s) = toCapitals s := by
  simp only [toCapitals, String.toList_ofList, List.mem_flatMap] at h ⊢
  have hself : ∀ d ∈ s.toList.flatMap capital, capital d = [d] := by
    intro d hd
    obtain ⟨c, hc, hdc⟩ := List.mem_flatMap.1 hd
    rcases settled_of_mem_capital hdc with he | hs
    · exact he
    · exact capital_of_settled hs fun x hx => h x ⟨d, ⟨c, hc, hdc⟩, hx⟩
  rw [List.flatMap_congr hself, List.flatMap_singleton']

end GoalPlanner.Text

namespace GoalPlanner.Log

theorem thresholds_ascii : ∀ t ∈ thresholds, ∀ c ∈ t.1.toList, c.toNat < 128 := by
  simp [thresholds]

theorem toCapitals_thresholds : ∀ t ∈ thresholds, Text.toCapitals t.1 = t.1 := by
  simp [thresholds, Text.toCapitals, Text.capital]

/-- A text in capitals that is a threshold is the name of one. -/
theorem mem_thresholds {s : String} {n : Nat} (h : threshold? (Text.toCapitals s) = some n) :
    (Text.toCapitals s, n) ∈ thresholds := by
  simp only [threshold?, Option.map_eq_some_iff] at h
  obtain ⟨t, ht, rfl⟩ := h
  have hmem := List.mem_of_find?_eq_some ht
  have hname : t.1 = Text.toCapitals (Text.toCapitals s) := by simpa using List.find?_some ht
  have hself := Text.toCapitals_of_ascii (s := s) (hname ▸ thresholds_ascii t hmem)
  rwa [← hself, ← hname]

/-- A text in capitals that is the name of no threshold is none. -/
theorem ne_of_threshold?_eq_none {s : String} (h : threshold? s = none) {t : String × Nat} (ht : t ∈ thresholds) :
    s ≠ t.1 := by
  rintro rfl
  simp only [threshold?, Option.map_eq_none_iff, List.find?_eq_none, beq_iff_eq] at h
  exact h t ht (toCapitals_thresholds t ht).symm

end GoalPlanner.Log
