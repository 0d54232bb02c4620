import RegexMachine.Expression.Alphabet
import RegexMachine.Text.Quoted

namespace RegexMachine

/-- Why an expression is not admissible. Positions count characters from zero. -/
inductive SyntaxError where
  | empty
  | leadingStar
  | leadingSpace
  | invalidChar (c : Char) (position : Nat)
  | unexpectedCloseParen (position : Nat)
  | unclosedParen
  deriving DecidableEq

namespace SyntaxError

def message : SyntaxError → String
  | empty => "expression is empty"
  | leadingStar => "expression starts with '*'"
  | leadingSpace => "expression starts with a space"
  | invalidChar c position =>
    "invalid character " ++ Text.quote '\'' [c] ++ " at position " ++ toString position
  | unexpectedCloseParen position => "unexpected ')' at position " ++ toString position
  | unclosedParen => "unclosed '('"

/-- The first fault of the characters from `position` on, with `depth` groups open there. -/
def inside (position depth : Nat) : List Char → Except SyntaxError Unit
  | [] => if depth = 0 then .ok () else .error unclosedParen
  | c :: rest =>
    if c = '(' then inside (position + 1) (depth + 1) rest
    else if c = ')' then
      match depth with
      | 0 => .error (unexpectedCloseParen position)
      | depth + 1 => inside (position + 1) depth rest
    else if isOperand c || isSpecial c then inside (position + 1) depth rest
    else .error (invalidChar c position)

end SyntaxError

/-- Refuses an expression at its first fault. What passes may still lack operands. -/
def checkAdmissible (expression : List Char) : Except SyntaxError Unit :=
  match expression with
  | [] => .error .empty
  | c :: _ =>
    if c = '*' then .error .leadingStar
    else if c = ' ' then .error .leadingSpace
    else SyntaxError.inside 0 0 expression

end RegexMachine
