import RegexMachine.Expression.Alphabet

namespace RegexMachine

/-- No group is closed that is not open, and none is left open. -/
def Balanced (text : List Char) : Prop :=
  text.count '(' = text.count ')' ∧
    ∀ start, start <+: text → start.count ')' ≤ start.count '('

/-- Begins with neither a star nor a space, holds only characters of expressions, and closes the
groups that it opens. -/
structure Admissible (text : List Char) : Prop where
  nonempty : text ≠ []
  no_leading_star : text.head? ≠ some '*'
  no_leading_space : text.head? ≠ some ' '
  alphabet : ∀ c ∈ text, isOperand c = true ∨ isSpecial c = true
  balanced : Balanced text

/-- Some admissible text begins with this one. -/
def Extendable (text : List Char) : Prop := ∃ whole, Admissible whole ∧ text <+: whole

/-- What stands before `position` can still become admissible, but not together with the character there. -/
def PointOfNoReturn (text : List Char) (position : Nat) : Prop :=
  Extendable (text.take position) ∧ ¬Extendable (text.take (position + 1))

end RegexMachine
