namespace RegexMachine

/-- Why an expression does not compile. Positions count characters from zero. -/
inductive CompileError where
  | unbalancedParen (position : Nat)
  | unclosedParen
  | invalidChar (c : Char) (position : Nat)
  | missingOperand (operator : Char)
  | emptyExpression
  deriving DecidableEq

def CompileError.message : CompileError → String
  | unbalancedParen position => "unbalanced parenthesis at position " ++ toString position
  | unclosedParen => "unclosed parenthesis"
  | invalidChar c position =>
    "invalid character '" ++ c.toString ++ "' at position " ++ toString position
  | missingOperand operator => "operator '" ++ operator.toString ++ "' is missing an operand"
  | emptyExpression => "expression is empty"

end RegexMachine
