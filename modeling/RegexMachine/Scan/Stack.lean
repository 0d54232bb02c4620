import RegexMachine.Scan.Basic

namespace RegexMachine

/-- What waits on the one stack that holds the operators of all levels. -/
inductive Waiting where
  | operator (binary : Operator)
  | paren
  deriving DecidableEq

/-- How reports show it. -/
def Waiting.symbol : Waiting → Char
  | .operator binary => binary.symbol
  | .paren => '('

/-- A scan with two stacks, their tops in front, and a counter of the open groups. -/
structure StackScan where
  operands : List Automaton := []
  operators : List Waiting := []
  joins : Bool := false
  depth : Nat := 0
  position : Nat := 0

namespace StackScan

/-- The top operand and those below it; `operator` is what asks for it. -/
def pop (operator : Char) : List Automaton → Except CompileError (Automaton × List Automaton)
  | [] => .error (.missingOperand operator)
  | top :: below => .ok (top, below)

/-- Takes the concatenations on top of the operators, and an operand for each of them. One operand more is
taken, and the others are joined to it, the last one taken first. -/
def absorb : List Waiting → List Automaton → List Automaton →
    Except CompileError (Automaton × List Waiting × List Automaton)
  | .operator .concat :: operators, operands, chain => do
    let (factor, operands) ← pop Operator.concat.symbol operands
    absorb operators operands (factor :: chain)
  | operators, operands, chain => do
    let (first, operands) ← pop Operator.union.symbol operands
    pure (chain.foldl .concat first, operators, operands)

/-- Applies an operator to the operands; `operators` are those below it. -/
def apply : Operator → List Waiting → List Automaton →
    Except CompileError (List Waiting × List Automaton)
  | .concat, operators, operands => do
    let (right, operands) ← pop Operator.concat.symbol operands
    let (left, operands) ← pop Operator.concat.symbol operands
    pure (operators, left.concat right :: operands)
  | .union, operators, operands => do
    let (right, operands) ← pop Operator.union.symbol operands
    let (left, operators, operands) ← absorb operators operands []
    pure (operators, left.union right :: operands)

theorem length_absorb {operators rest : List Waiting} {operands chain below : List Automaton}
    {left : Automaton} (h : absorb operators operands chain = .ok (left, rest, below)) :
    rest.length ≤ operators.length := by
  induction operators, operands, chain using absorb.induct with
  | case1 operators operands chain ih =>
    cases operands with
    | nil => cases h
    | cons factor operands => exact Nat.le_succ_of_le (ih _ _ h)
  | case2 operators operands chain other =>
    rw [absorb] at h
    · cases operands with
      | nil => cases h
      | cons first operands =>
        cases h
        exact Nat.le_refl _
    · exact other

theorem length_apply {operator : Operator} {operators rest : List Waiting}
    {operands out : List Automaton} (h : apply operator operators operands = .ok (rest, out)) :
    rest.length ≤ operators.length := by
  cases operator with
  | concat =>
    obtain _ | ⟨right, _ | ⟨left, operands⟩⟩ := operands
    · cases h
    · cases h
    · cases h
      exact Nat.le_refl _
  | union =>
    cases operands with
    | nil => cases h
    | cons right operands =>
      cases habsorb : absorb operators operands [] with
      | error error =>
        change absorb operators operands [] >>= _ = _ at h
        rw [habsorb] at h
        cases h
      | ok taken =>
        change absorb operators operands [] >>= _ = _ at h
        rw [habsorb] at h
        cases h
        exact length_absorb habsorb

/-- Applies operators, the top one first, until a parenthesis is on top or none is left. -/
def reduce : List Waiting → List Automaton → Logged CompileError (List Waiting × List Automaton)
  | .operator operator :: operators, operands =>
    match _ : apply operator operators operands with
    | .error error => .fail error
    | .ok (operators, operands) => do
      Level.report operator operands
      reduce operators operands
  | operators, operands => pure (operators, operands)
termination_by operators => operators.length
decreasing_by
  rename_i h
  exact Nat.lt_succ_of_le (length_apply h)

/-- The operators, with the concatenation that an operand read now would call for. -/
def joined (s : StackScan) : List Waiting :=
  if s.joins then .operator .concat :: s.operators else s.operators

/-- Puts `f` of the top operand in its place; `operator` is what asks for it. -/
def repeatLast (s : StackScan) (operator : Char) (f : Automaton → Automaton) :
    Except CompileError StackScan := do
  let (last, operands) ← pop operator s.operands
  pure { s with operands := f last :: operands, joins := true }

/-- Reads one character. -/
def read (s : StackScan) (c : Char) : Logged CompileError StackScan :=
  let next := { s with position := s.position + 1 }
  if c = ' ' then pure next
  else if c = '*' then .ofExcept (next.repeatLast c .star)
  else if c = '+' then .ofExcept (next.repeatLast c .plus)
  else if c = '(' then
    pure { next with operators := .paren :: s.joined, depth := s.depth + 1, joins := false }
  else if c = ')' then
    if s.depth = 0 then .fail (.unbalancedParen s.position)
    else do
      let (operators, operands) ← reduce s.operators s.operands
      pure { next with
        operands, operators := operators.tail, depth := s.depth - 1, joins := true }
  else if c = '|' then
    pure { next with operators := .operator .union :: s.operators, joins := false }
  else if isOperand c then
    pure { next with operands := .literal c :: s.operands, operators := s.joined, joins := true }
  else .fail (.invalidChar c s.position)

/-- Reads characters until one of them fails. -/
def readAll (s : StackScan) : List Char → Logged CompileError StackScan
  | [] => pure s
  | c :: rest => do (← s.read c).readAll rest

/-- Applies all operators. The top operand is the automaton of the expression. -/
def finish (s : StackScan) : Logged CompileError Automaton := do
  match ← reduce s.operators s.operands with
  | (_ :: _, _) => .fail .unclosedParen
  | ([], []) => .fail .emptyExpression
  | ([], last :: _) => pure last

/-- The automaton of an expression. -/
def compile (expression : List Char) : Logged CompileError Automaton := do
  let automaton ← (← ({} : StackScan).readAll expression).finish
  .emit (.compiled expression automaton.states automaton.edges.length)
  pure automaton

end StackScan

/-- The same scan with the levels on one stack. -/
def Scan.flatten (s : Scan) : StackScan where
  operands := s.operands
  operators := s.level.map .operator ++ s.outer.flatMap fun level => .paren :: level.map .operator
  joins := s.joins
  depth := s.outer.length
  position := s.position

end RegexMachine
