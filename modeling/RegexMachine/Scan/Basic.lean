import RegexMachine.Expression.Alphabet
import RegexMachine.Scan.Level

namespace RegexMachine

/-- What is known after the characters read so far: the automata made of them, the operators that wait in
the innermost open group, those that wait in each level around it, whether the last thing read ended an
operand, so that another one would be concatenated, and how many characters were read. All lists have their
last element in front. -/
structure Scan where
  operands : List Automaton := []
  level : List Operator := []
  outer : List (List Operator) := []
  joins : Bool := false
  position : Nat := 0

namespace Scan

/-- How many groups are open. -/
def depth (s : Scan) : Nat := s.outer.length

/-- The waiting operators from the first to the last, with a parenthesis where a group begins. -/
def waiting (s : Scan) : List Char :=
  (s.outer.reverse.flatMap fun level => level.reverse.map Operator.symbol ++ ['('])
    ++ s.level.reverse.map Operator.symbol

/-- The operators of the level, with the concatenation that an operand read now would call for. -/
def joined (s : Scan) : List Operator := if s.joins then .concat :: s.level else s.level

/-- Puts `f` of the last operand in its place; `operator` is what asks for it. -/
def repeatLast (s : Scan) (operator : Char) (f : Automaton → Automaton) :
    Except CompileError Scan :=
  match s.operands with
  | [] => .error (.missingOperand operator)
  | last :: operands => .ok { s with operands := f last :: operands, joins := true }

/-- Reads one character. -/
def read (s : Scan) (c : Char) : Logged CompileError Scan :=
  let next := { s with position := s.position + 1 }
  if c = ' ' then pure next
  else if c = '*' then .ofExcept (next.repeatLast c Automaton.star)
  else if c = '+' then .ofExcept (next.repeatLast c Automaton.plus)
  else if c = '(' then pure { next with level := [], outer := s.joined :: s.outer, joins := false }
  else if c = ')' then
    match s.outer with
    | [] => .fail (.unbalancedParen s.position)
    | level :: outer => do
      let operands ← Level.collapse s.level s.operands
      pure { next with operands, level, outer, joins := true }
  else if c = '|' then pure { next with level := .union :: s.level, joins := false }
  else if isOperand c then
    pure { next with operands := .literal c :: s.operands, level := s.joined, joins := true }
  else .fail (.invalidChar c s.position)

/-- Reads characters until one of them fails. -/
def readAll (s : Scan) : List Char → Logged CompileError Scan
  | [] => pure s
  | c :: rest => do (← s.read c).readAll rest

/-- Ends the outermost level. Its last operand is the automaton of the expression. -/
def finish (s : Scan) : Logged CompileError Automaton := do
  let operands ← Level.collapse s.level s.operands
  match s.outer, operands with
  | _ :: _, _ => .fail .unclosedParen
  | [], [] => .fail .emptyExpression
  | [], last :: _ => pure last

end Scan

/-- The automaton of an expression, which need not be admissible. -/
def compile (expression : List Char) : Logged CompileError Automaton := do
  let scan ← ({} : Scan).readAll expression
  let automaton ← scan.finish
  .emit (.compiled expression automaton.states automaton.edges.length)
  pure automaton

end RegexMachine
