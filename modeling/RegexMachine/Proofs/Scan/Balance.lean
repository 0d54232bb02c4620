import RegexMachine.Expression.Denotation
import RegexMachine.Proofs.Expression.Completion
import RegexMachine.Proofs.Scan.Collapse
import RegexMachine.Proofs.Scan.Step

namespace RegexMachine.Scan

/-- How many operators wait on all levels. -/
def binary (s : Scan) : Nat := s.level.length + s.outer.flatten.length

/-- How many operands the scan has at most. -/
def room (s : Scan) : Nat := s.binary + s.joins.toNat

variable {s t : Scan} {c : Char}

theorem length_joined (s : Scan) : s.joined.length = s.level.length + s.joins.toNat := by
  unfold joined
  cases s.joins
  · rfl
  · rfl

/-- No step fills more room than it makes, and it leaves room only if there was some before or an
operand is missing right before the character. -/
theorem step_room (h : Step s c t) (hs : s.operands.length ≤ s.room) :
    t.operands.length ≤ t.room ∧
    (t.operands.length = t.room ↔
      s.operands.length = s.room ∧ (needsOperand c → s.joins = true)) := by
  have hjoined := s.length_joined
  have htrue : s.joins = true ↔ s.joins.toNat = 1 := by cases s.joins <;> decide
  have hle : s.joins.toNat ≤ 1 := s.joins.toNat_le
  rw [htrue]
  cases h with
  | space =>
    have hc : ¬needsOperand ' ' := by simp [needsOperand]
    simp only [room, binary] at hs ⊢
    exact ⟨hs, by simp [hc]⟩
  | star top =>
    have hc : needsOperand '*' := by simp [needsOperand]
    simp only [room, binary, top, List.length_cons, Bool.toNat_true, hc, true_imp_iff] at hs ⊢
    omega
  | plus top =>
    have hc : needsOperand '+' := by simp [needsOperand]
    simp only [room, binary, top, List.length_cons, Bool.toNat_true, hc, true_imp_iff] at hs ⊢
    omega
  | opening =>
    have hc : ¬needsOperand '(' := by simp [needsOperand]
    simp only [room, binary, List.length_nil, List.flatten_cons, List.length_append, hjoined,
      Bool.toNat_false, hc, false_imp_iff, and_true] at hs ⊢
    omega
  | closing inside collapsed =>
    have hc : needsOperand ')' := by simp [needsOperand]
    have hlength := Level.length_collapse collapsed
    simp only [room, binary, inside, List.flatten_cons, List.length_append, Bool.toNat_true, hc,
      true_imp_iff] at hs ⊢
    omega
  | bar =>
    have hc : needsOperand '|' := by simp [needsOperand]
    simp only [room, binary, List.length_cons, Bool.toNat_false, hc, true_imp_iff] at hs ⊢
    omega
  | operand hc =>
    have hneeds := not_needsOperand hc
    simp only [room, binary, List.length_cons, hjoined, Bool.toNat_true, hneeds,
      false_imp_iff, and_true] at hs ⊢
    omega

/-- At an end without a fault nothing is open, and no operand is missing. -/
theorem finish_room {a : Automaton} (h : s.finish.result = .ok a)
    (hs : s.operands.length ≤ s.room) :
    s.operands.length = s.room ∧ s.joins = true ∧ s.depth = 0 := by
  obtain ⟨houter, below, collapsed⟩ := finish_eq_ok.1 h
  have hlength := Level.length_collapse collapsed
  simp only [room, binary, depth, houter, List.length_cons, List.flatten_nil,
    List.length_nil] at hs hlength ⊢
  have hle : s.joins.toNat ≤ 1 := s.joins.toNat_le
  have hjoins : s.joins = true := by
    cases hj : s.joins
    · rw [hj] at hs
      simp only [Bool.toNat_false] at hs
      omega
    · rfl
  rw [hjoins] at hs ⊢
  simp only [Bool.toNat_true] at hs ⊢
  exact ⟨by omega, trivial, trivial⟩

/-- What a scan reads on its way to an end without a fault completes what it read before, and no
operand was missing at the outset: the gap would have stayed to the end. -/
theorem completes_of_readAll {text : List Char} {a : Automaton}
    (h : (s.readAll text).result = .ok t) (hfinish : t.finish.result = .ok a)
    (hs : s.operands.length ≤ s.room) :
    s.operands.length = s.room ∧ Completes s.joins s.depth (withoutSpaces text) := by
  induction text generalizing s with
  | nil =>
    obtain rfl := readAll_nil_eq_ok.1 h
    obtain ⟨hroom, hjoins, hdepth⟩ := finish_room hfinish hs
    rw [hjoins, hdepth]
    exact ⟨hroom, .done⟩
  | cons c text ih =>
    obtain ⟨next, hstep, hrest⟩ := readAll_cons_eq_ok.1 h
    obtain ⟨hnext, hiff⟩ := step_room hstep hs
    obtain ⟨hroom, hcompletes⟩ := ih hrest hnext
    obtain ⟨hroom, hneeds⟩ := hiff.1 hroom
    refine ⟨hroom, ?_⟩
    cases hstep with
    | space => exact hcompletes
    | star top =>
      rw [hneeds (.inl rfl)]
      exact .star hcompletes
    | plus top =>
      rw [hneeds (.inr (.inl rfl))]
      exact .plus hcompletes
    | opening => exact .opening hcompletes
    | closing inside collapsed =>
      rw [hneeds (.inr (.inr (.inl rfl))), depth, inside]
      exact .closing hcompletes
    | bar =>
      rw [hneeds (.inr (.inr (.inr rfl)))]
      exact .bar hcompletes
    | operand hc =>
      rw [withoutSpaces_cons (isOperand_ne hc (by decide))]
      exact .operand hc hcompletes

end RegexMachine.Scan
