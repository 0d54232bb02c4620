import RegexMachine.Automaton.Composition
import RegexMachine.Log.Logged
import RegexMachine.Scan.CompileError

namespace RegexMachine.Level

/-- Applies a concatenation to the two topmost operands. -/
def applyConcat : List Automaton → Except CompileError (List Automaton)
  | right :: left :: operands => .ok (left.concat right :: operands)
  | _ => .error (.missingOperand Operator.concat.symbol)

/-- Applies a union whose left operand ends with `joints` concatenations. Below the right operand
lie the factors of the left one, the last on top; they are concatenated from the first to the
last. -/
def applyUnion (joints : Nat) : List Automaton → Except CompileError (List Automaton)
  | [] => .error (.missingOperand Operator.union.symbol)
  | right :: operands =>
    if operands.length < joints then .error (.missingOperand Operator.concat.symbol)
    else
      match operands.drop joints with
      | [] => .error (.missingOperand Operator.union.symbol)
      | first :: below =>
        let left := (operands.take joints).foldr (fun factor left => left.concat factor) first
        .ok (left.union right :: below)

/-- Records that `operator` was applied, with the size of the operand on top. -/
def report (operator : Operator) : List Automaton → Logged CompileError Unit
  | [] => pure ()
  | top :: _ => .emit (.reduced operator top.states)

/-- Applies the operators of a level, the last one first, to the operands, the last one on top. -/
def collapse : List Operator → List Automaton → Logged CompileError (List Automaton)
  | [], operands => pure operands
  | .concat :: level, operands => do
    let operands ← .ofExcept (applyConcat operands)
    report .concat operands
    collapse level operands
  | .union :: level, operands => do
    let operands ← .ofExcept (applyUnion (level.takeWhile (· = .concat)).length operands)
    report .union operands
    collapse (level.dropWhile (· = .concat)) operands
termination_by level => level.length
decreasing_by
  · simp
  · exact Nat.lt_succ_of_le (List.dropWhile_sublist _).length_le

end RegexMachine.Level
