import Mathlib.Tactic.SplitIfs
import RegexMachine.Proofs.Scan.Collapse
import RegexMachine.Scan.Stack

namespace RegexMachine

instance (ε : Type) : LawfulMonad (Logged ε) := LawfulMonad.mk' _
  (by
    intro α x
    obtain ⟨log, e | a⟩ := x
    · rfl
    · exact congrArg (Logged.mk · _) (List.append_nil log))
  (by
    intro α β a f
    rfl)
  (by
    intro α β γ x f g
    exact Logged.bind_assoc x f g)

theorem Logged.ofExcept_map {ε α β : Type} (f : α → β) (x : Except ε α) :
    ofExcept (f <$> x) = f <$> ofExcept x := by
  cases x <;> rfl

namespace StackScan

variable {tail : List Waiting}

theorem apply_concat (tail : List Waiting) (operands : List Automaton) :
    apply .concat tail operands = (Prod.mk tail) <$> Level.applyConcat operands := by
  obtain _ | ⟨right, _ | ⟨left, operands⟩⟩ := operands <;> rfl

/-- The chain is as long as the concatenations directly before the union are many. -/
theorem absorb_level (htail : ∀ operator rest, tail ≠ .operator operator :: rest)
    (level : List Operator) (operands chain : List Automaton) :
    absorb (level.map .operator ++ tail) operands chain =
      let joints := (level.takeWhile (· = .concat)).length
      if operands.length < joints then .error (.missingOperand Operator.concat.symbol)
      else (fun popped => (((operands.take joints).reverse ++ chain).foldl .concat popped.1,
          (level.dropWhile (· = .concat)).map .operator ++ tail, popped.2)) <$>
        pop Operator.union.symbol (operands.drop joints) := by
  induction level generalizing operands chain with
  | nil =>
    rw [absorb]
    · cases operands <;> rfl
    · intro rest h
      exact htail _ _ h
  | cons operator level ih =>
    cases operator with
    | concat =>
      cases operands with
      | nil =>
        simp [absorb, pop]
        rfl
      | cons factor operands =>
        have hstep : absorb ((Operator.concat :: level).map .operator ++ tail) (factor :: operands)
            chain = absorb (level.map .operator ++ tail) operands (factor :: chain) := rfl
        rw [hstep, ih]
        simp
    | union =>
      rw [absorb]
      · cases operands <;> rfl
      · intro rest h
        simp at h

theorem apply_union (htail : ∀ operator rest, tail ≠ .operator operator :: rest)
    (level : List Operator) (operands : List Automaton) :
    apply .union (level.map .operator ++ tail) operands =
      (Prod.mk ((level.dropWhile (· = .concat)).map .operator ++ tail)) <$>
        Level.applyUnion (level.takeWhile (· = .concat)).length operands := by
  cases operands with
  | nil => rfl
  | cons right operands =>
    have hstep : apply .union (level.map .operator ++ tail) (right :: operands)
        = absorb (level.map .operator ++ tail) operands [] >>= fun taken =>
          pure (taken.2.1, taken.1.union right :: taken.2.2) := rfl
    rw [hstep, absorb_level htail, Level.applyUnion]
    simp only [List.append_nil, List.foldl_reverse]
    split_ifs
    · rfl
    · cases operands.drop (level.takeWhile (· = .concat)).length <;> rfl

theorem reduce_operator (operator : Operator) (operators : List Waiting)
    (operands : List Automaton) :
    reduce (.operator operator :: operators) operands = (do
      let (operators, operands) ← .ofExcept (apply operator operators operands)
      Level.report operator operands
      reduce operators operands) := by
  rw [reduce]
  split
  · rename_i error happly
    rw [happly]
    rfl
  · rename_i operators operands happly
    rw [happly]
    rfl

/-- What is on top of the first parenthesis is a level, and it is collapsed. -/
theorem reduce_level (htail : ∀ operator rest, tail ≠ .operator operator :: rest)
    (level : List Operator) (operands : List Automaton) :
    reduce (level.map .operator ++ tail) operands
      = (Prod.mk tail) <$> Level.collapse level operands := by
  induction level, operands using Level.collapse.induct with
  | case1 operands =>
    rw [Level.collapse, map_pure]
    exact reduce.eq_2 _ _ htail
  | case2 level operands ih =>
    simp only [List.map_cons, List.cons_append, reduce_operator, apply_concat, Level.collapse,
      Logged.ofExcept_map, bind_map_left, map_bind, ih]
  | case3 level operands ih =>
    simp only [List.map_cons, List.cons_append, reduce_operator, apply_union htail, Level.collapse,
      Logged.ofExcept_map, bind_map_left, map_bind, ih]

end StackScan

namespace Scan

variable {s : Scan} {c : Char}

theorem flatten_tail (outer : List (List Operator)) (operator : Operator) (rest : List Waiting) :
    (outer.flatMap fun level => .paren :: level.map .operator) ≠ .operator operator :: rest := by
  cases outer <;> simp

theorem reduce_flatten (s : Scan) :
    StackScan.reduce s.flatten.operators s.flatten.operands
      = (Prod.mk (s.outer.flatMap fun level => .paren :: level.map .operator)) <$>
        Level.collapse s.level s.operands :=
  StackScan.reduce_level (flatten_tail s.outer) s.level s.operands

theorem joined_flatten (s : Scan) :
    s.flatten.joined = s.joined.map .operator
      ++ s.outer.flatMap fun level => .paren :: level.map .operator := by
  unfold StackScan.joined joined
  cases hjoins : s.joins <;> simp [flatten, hjoins]

theorem repeatLast_flatten (s : Scan) (operator : Char) (f : Automaton → Automaton) :
    s.flatten.repeatLast operator f = flatten <$> s.repeatLast operator f := by
  obtain ⟨operands, level, outer, joins, position⟩ := s
  cases operands <;> rfl

/-- The scan on one stack reads each character as the scan by levels does, with the same records. -/
theorem read_flatten (s : Scan) (c : Char) : s.flatten.read c = flatten <$> s.read c := by
  unfold StackScan.read read
  split_ifs with hspace hstar hplus hopen hclose hdepth hbar hoperand
  · rfl
  · rw [← Logged.ofExcept_map, ← repeatLast_flatten]
    rfl
  · rw [← Logged.ofExcept_map, ← repeatLast_flatten]
    rfl
  · rw [map_pure, joined_flatten]
    rfl
  · obtain ⟨operands, level, outer, joins, position⟩ := s
    obtain rfl : outer = [] := List.eq_nil_of_length_eq_zero hdepth
    rfl
  · rw [reduce_flatten, bind_map_left]
    obtain ⟨operands, level, outer, joins, position⟩ := s
    cases outer with
    | nil => exact absurd rfl hdepth
    | cons group outer =>
      simp only [map_bind, map_pure]
      rfl
  · rfl
  · rw [map_pure, joined_flatten]
    rfl
  · rfl

theorem readAll_flatten (s : Scan) (text : List Char) :
    s.flatten.readAll text = flatten <$> s.readAll text := by
  induction text generalizing s with
  | nil => rfl
  | cons c text ih => simp only [StackScan.readAll, readAll, read_flatten, bind_map_left, map_bind, ih]

theorem flatten_readAll_eq_ok {text : List Char} {t : StackScan} :
    (s.flatten.readAll text).result = .ok t ↔
      ∃ next, (s.readAll text).result = .ok next ∧ next.flatten = t := by
  rw [readAll_flatten, map_eq_pure_bind, Logged.bind_eq_ok]
  simp only [Logged.result_pure, Except.ok.injEq]

/-- The operators are shown as they stand on the one stack, from the bottom up. -/
theorem waiting_eq (s : Scan) : s.waiting = s.flatten.operators.reverse.map Waiting.symbol := by
  have hlevel (level : List Operator) :
      (level.map Waiting.operator).map Waiting.symbol = level.map Operator.symbol :=
    List.map_map
  have houter : (s.outer.flatMap fun level => .paren :: level.map .operator).map Waiting.symbol
      = s.outer.flatMap fun level => '(' :: level.map Operator.symbol := by
    simp only [List.map_flatMap, List.map_cons, hlevel]
    rfl
  rw [List.map_reverse, flatten, List.map_append, hlevel, houter, List.reverse_append,
    List.reverse_flatMap, waiting]
  simp [Function.comp_def]

theorem finish_flatten (s : Scan) : s.flatten.finish = s.finish := by
  unfold StackScan.finish finish
  rw [reduce_flatten, bind_map_left]
  obtain ⟨operands, level, outer, joins, position⟩ := s
  apply bind_congr
  intro out
  cases outer with
  | nil => cases out <;> rfl
  | cons group outer => rfl

/-- Both scans compile every expression alike, with the same records and the same faults. -/
theorem compile_eq (expression : List Char) :
    StackScan.compile expression = RegexMachine.compile expression := by
  have hread : ({} : StackScan).readAll expression = flatten <$> ({} : Scan).readAll expression :=
    readAll_flatten {} expression
  unfold StackScan.compile RegexMachine.compile
  simp only [hread, bind_map_left, finish_flatten]

end Scan

end RegexMachine
