namespace RegexMachine.Text

/-- Whether `n` lies in one of the intervals. They ascend, so the search ends at the first one that
begins above `n`. -/
def inIntervals (n : Nat) : List (Nat × Nat) → Bool
  | [] => false
  | (low, high) :: rest => if n < low then false else n ≤ high || inIntervals n rest

/-- Each interval is nonempty and lies below the next one. -/
def Ascending : List (Nat × Nat) → Prop
  | [] => True
  | [i] => i.1 ≤ i.2
  | i :: j :: rest => i.1 ≤ i.2 ∧ i.2 < j.1 ∧ Ascending (j :: rest)

instance decidableAscending : (table : List (Nat × Nat)) → Decidable (Ascending table)
  | [] => isTrue trivial
  | [i] => inferInstanceAs (Decidable (i.1 ≤ i.2))
  | i :: j :: rest =>
    have := decidableAscending (j :: rest)
    inferInstanceAs (Decidable (i.1 ≤ i.2 ∧ i.2 < j.1 ∧ Ascending (j :: rest)))

theorem Ascending.tail {i : Nat × Nat} {rest : List (Nat × Nat)} (h : Ascending (i :: rest)) :
    Ascending rest := by
  cases rest with
  | nil => trivial
  | cons j rest => exact h.2.2

theorem Ascending.lt_of_mem {i j : Nat × Nat} {rest : List (Nat × Nat)}
    (h : Ascending (i :: rest)) (hj : j ∈ rest) : i.1 < j.1 := by
  induction rest generalizing i with
  | nil => cases hj
  | cons k rest ih =>
    have hik : i.1 < k.1 := Nat.lt_of_le_of_lt h.1 h.2.1
    cases hj with
    | head => exact hik
    | tail _ hj => exact Nat.lt_trans hik (ih h.tail hj)

theorem inIntervals_iff {n : Nat} {table : List (Nat × Nat)} (h : Ascending table) :
    inIntervals n table = true ↔ ∃ i ∈ table, i.1 ≤ n ∧ n ≤ i.2 := by
  induction table with
  | nil => simp [inIntervals]
  | cons i rest ih =>
    have hlow : n < i.1 → ∀ j ∈ rest, ¬ j.1 ≤ n := fun hn j hj =>
      Nat.not_le.2 (Nat.lt_trans hn (h.lt_of_mem hj))
    by_cases hn : n < i.1
    · simp only [inIntervals, if_pos hn, List.mem_cons, exists_eq_or_imp]
      simp only [Bool.false_eq_true, false_iff, not_or, not_exists, not_and]
      exact ⟨fun hi => absurd hi (Nat.not_le.2 hn), fun j hj hjn => absurd hjn (hlow hn j hj)⟩
    · simp [inIntervals, if_neg hn, ih h.tail, Nat.not_lt.1 hn]

end RegexMachine.Text
