namespace RegexMachine

/-- A binary operator. Concatenation is not written. -/
inductive Operator where
  | concat
  | union
  deriving DecidableEq

/-- How reports show an operator. -/
def Operator.symbol : Operator → Char
  | concat => '.'
  | union => '|'

end RegexMachine
