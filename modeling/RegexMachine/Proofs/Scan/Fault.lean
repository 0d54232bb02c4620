import RegexMachine.Proofs.Scan.Collapse
import RegexMachine.Proofs.Scan.Step

namespace RegexMachine.Scan

/-- What makes a scan refuse a character, and how it says so. -/
inductive Fault (s : Scan) : Char → CompileError → Prop
  | star (bare : s.operands = []) : Fault s '*' (.missingOperand '*')
  | plus (bare : s.operands = []) : Fault s '+' (.missingOperand '+')
  | unbalanced (outside : s.outer = []) : Fault s ')' (.unbalancedParen s.position)
  | shortage {level : List Operator} {outer : List (List Operator)} {error : CompileError}
      (inside : s.outer = level :: outer)
      (failed : (Level.collapse s.level s.operands).result = .error error) : Fault s ')' error
  | foreign {c : Char} (hoperand : isOperand c = false) (hspecial : isSpecial c = false) :
      Fault s c (.invalidChar c s.position)

variable {s : Scan} {c : Char} {error : CompileError}

theorem repeatLast_eq_error {operator : Char} {f : Automaton → Automaton} :
    s.repeatLast operator f = .error error ↔
      s.operands = [] ∧ error = .missingOperand operator := by
  unfold repeatLast
  split
  · rename_i bare
    rw [Except.error.injEq, eq_comm]
    simp [bare]
  · rename_i last below top
    simp [top]

theorem fault_of_read (h : (s.read c).result = .error error) : Fault s c error := by
  unfold read at h
  split_ifs at h with hspace hstar hplus hopen hclose hbar hoperand
  · cases h
  · obtain ⟨bare, rfl⟩ := repeatLast_eq_error.1 h
    exact hstar ▸ .star bare
  · obtain ⟨bare, rfl⟩ := repeatLast_eq_error.1 h
    exact hplus ▸ .plus bare
  · cases h
  · subst hclose
    split at h
    · rename_i outside
      cases h
      exact .unbalanced outside
    · rename_i level outer inside
      rcases Logged.bind_eq_error.1 h with h | ⟨_, -, h⟩
      · exact .shortage inside h
      · cases h
  · cases h
  · cases h
  · cases h
    exact .foreign (Bool.eq_false_iff.2 hoperand) (by
      simp [isSpecial, hspace, hstar, hplus, hopen, hclose, hbar])

theorem read_of_fault (h : Fault s c error) : (s.read c).result = .error error := by
  cases h with
  | star bare => exact repeatLast_eq_error.2 ⟨bare, rfl⟩
  | plus bare => exact repeatLast_eq_error.2 ⟨bare, rfl⟩
  | unbalanced outside =>
    simp only [read, outside]
    rfl
  | shortage inside failed =>
    simp only [read, inside]
    exact Logged.bind_eq_error.2 (.inl failed)
  | foreign hoperand hspecial =>
    simp only [isSpecial, Bool.or_eq_false_iff, decide_eq_false_iff_not] at hspecial
    obtain ⟨⟨⟨⟨⟨hopen, hclose⟩, hstar⟩, hplus⟩, hbar⟩, hspace⟩ := hspecial
    simp [read, hopen, hclose, hstar, hplus, hbar, hspace, hoperand]

/-- The cases of `Fault` are all the ways in which a character is refused. -/
theorem read_eq_error : (s.read c).result = .error error ↔ Fault s c error :=
  ⟨fault_of_read, read_of_fault⟩

/-- At the end an operand is missing on the innermost level, or else a group is open, or else there
is no operand at all. -/
theorem finish_eq_error :
    s.finish.result = .error error ↔
      (Level.collapse s.level s.operands).result = .error error ∨
      ∃ operands, (Level.collapse s.level s.operands).result = .ok operands ∧
        (s.outer ≠ [] ∧ error = .unclosedParen ∨
          s.outer = [] ∧ operands = [] ∧ error = .emptyExpression) := by
  rw [finish, Logged.bind_eq_error]
  apply or_congr_right
  apply exists_congr
  intro operands
  apply and_congr_right
  intro _
  cases s.outer with
  | nil => cases operands <;> simp [eq_comm]
  | cons level outer => simp [eq_comm]

end RegexMachine.Scan
