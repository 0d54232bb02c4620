import RegexMachine.Text.Alphabetic

namespace RegexMachine

/-- Letters of any script and the ten decimal digits stand for themselves. Other signs with a
numeric value do not. -/
def isOperand (c : Char) : Bool := Text.isAlphabetic c || c.isDigit

/-- The characters with a meaning of their own; the space means nothing. -/
def isSpecial (c : Char) : Bool :=
  c = '(' || c = ')' || c = '*' || c = '+' || c = '|' || c = ' '

theorem isOperand_eq_false_of_isSpecial {c : Char} (h : isSpecial c = true) :
    isOperand c = false := by
  simp only [isSpecial, Bool.or_eq_true, decide_eq_true_eq] at h
  rcases h with ((((rfl | rfl) | rfl) | rfl) | rfl) | rfl <;> decide

theorem isOperand_ne {c d : Char} (hc : isOperand c = true) (hd : isSpecial d = true) : c ≠ d := by
  intro h
  subst h
  rw [isOperand_eq_false_of_isSpecial hd] at hc
  cases hc

end RegexMachine
