import RegexMachine.Proofs.Scan.Counts
import RegexMachine.Proofs.Scan.Fault

namespace RegexMachine

namespace Level

variable {level : List Operator} {operands out : List Automaton}

theorem exists_collapse (h : level.length < operands.length) :
    ∃ out, (collapse level operands).result = .ok out := by
  induction level, operands using collapse.induct with
  | case1 operands => exact ⟨operands, collapse_nil_eq_ok.2 rfl⟩
  | case2 level operands ih =>
    obtain _ | ⟨right, _ | ⟨left, below⟩⟩ := operands
    · simp at h
    · simp at h
    · have hbelow : level.length < (left.concat right :: below).length := by
        simp only [List.length_cons] at h ⊢
        omega
      obtain ⟨out, hout⟩ := ih _ hbelow
      exact ⟨out, collapse_concat_eq_ok.2 ⟨right, left, below, rfl, hout⟩⟩
  | case3 level operands ih =>
    have hlevel := length_takeWhile_add_dropWhile level
    obtain _ | ⟨right, rest⟩ := operands
    · simp at h
    · let joints := (level.takeWhile (· = .concat)).length
      have hjoints : joints < rest.length := by
        simp only [List.length_cons, joints] at h ⊢
        omega
      obtain ⟨first, below, hdrop⟩ : ∃ first below, rest.drop joints = first :: below :=
        List.exists_cons_of_ne_nil (by simpa using hjoints)
      have hfactors : (rest.take joints).length = joints :=
        List.length_take_of_le (Nat.le_of_lt hjoints)
      have hrest : rest = rest.take joints ++ first :: below := by
        rw [← hdrop, List.take_append_drop]
      have hlength := congrArg List.length hrest
      have hbelow : (level.dropWhile (· = .concat)).length < (Automaton.union
          ((rest.take joints).foldr (fun factor left => left.concat factor) first) right
            :: below).length := by
        simp only [List.length_cons, List.length_append, hfactors, joints] at h hlength ⊢
        omega
      obtain ⟨out, hout⟩ := ih _ hbelow
      exact ⟨out, collapse_union_eq_ok.2
        ⟨right, _, first, below, congrArg (right :: ·) hrest, hfactors, hout⟩⟩

/-- A level lacks an operand if and only if it has no more operands than operators: every operator
takes one away, and the last of them must leave one. -/
theorem exists_collapse_error_iff :
    (∃ operator : Operator,
      (collapse level operands).result = .error (.missingOperand operator.symbol)) ↔
    level ≠ [] ∧ operands.length ≤ level.length := by
  apply Iff.intro
  · intro h
    obtain ⟨operator, hfails⟩ := h
    apply And.intro
    · intro hnone
      have hnil := collapse_nil_eq_ok.2 (rfl : operands = operands)
      rw [← hnone, hfails] at hnil
      cases hnil
    · apply Nat.le_of_not_lt
      intro hmore
      obtain ⟨out, hout⟩ := exists_collapse hmore
      rw [hfails] at hout
      cases hout
  · intro h
    obtain ⟨hsome, hfew⟩ := h
    cases hcollapse : (collapse level operands).result with
    | error error =>
      obtain ⟨operator, rfl⟩ := collapse_eq_error hcollapse
      exact ⟨operator, rfl⟩
    | ok out =>
      have hlength := length_collapse hcollapse
      have hout : out = [] := List.eq_nil_of_length_eq_zero (by omega)
      have hoperands := (collapse_eq_nil_iff hcollapse).1 hout
      have hpos := List.length_pos_of_ne_nil hsome
      rw [hout, hoperands] at hlength
      simp only [List.length_nil] at hlength
      omega

end Level

namespace Scan

variable {s : Scan} {c : Char} {text : List Char} {error : CompileError}

/-- The operators that the end of a level applies: those behind the last open parenthesis. -/
def due (s : Scan) : List Char := s.waiting.reverse.takeWhile (· ≠ '(')

theorem due_eq (s : Scan) : s.due = s.level.map Operator.symbol := by
  have hsymbol : ∀ c ∈ s.level.map Operator.symbol, decide (c ≠ '(') = true := by
    intro c hc
    obtain ⟨operator, -, rfl⟩ := List.mem_map.1 hc
    cases operator <;> decide
  have houter : (s.outer.reverse.flatMap fun group => group.reverse.map Operator.symbol
      ++ ['(']).reverse.takeWhile (· ≠ '(') = [] := by
    cases s.outer <;> simp
  rw [due, waiting, List.reverse_append, ← List.map_reverse, List.reverse_reverse,
    List.takeWhile_append_of_pos hsymbol, houter, List.append_nil]

/-- The operators that are due call for more operands than there are. -/
def Short (s : Scan) : Prop := 1 ≤ s.due.length ∧ s.operands.length ≤ s.due.length

theorem short_iff : s.Short ↔ ∃ operator : Operator,
    (Level.collapse s.level s.operands).result = .error (.missingOperand operator.symbol) := by
  rw [Level.exists_collapse_error_iff, Short, due_eq, List.length_map, Nat.one_le_iff_ne_zero,
    Ne, List.length_eq_zero_iff]

theorem not_short_iff :
    ¬s.Short ↔ ∃ out, (Level.collapse s.level s.operands).result = .ok out := by
  rw [short_iff]
  cases hcollapse : (Level.collapse s.level s.operands).result with
  | ok out => simp
  | error error =>
    obtain ⟨operator, rfl⟩ := Level.collapse_eq_error hcollapse
    simp

theorem depth_eq_zero : s.depth = 0 ↔ s.outer = [] := List.length_eq_zero_iff

theorem depth_pos : 0 < s.depth ↔ ∃ level outer, s.outer = level :: outer := by
  rw [Nat.pos_iff_ne_zero, Ne, depth_eq_zero]
  exact List.ne_nil_iff_exists_cons

/-- A character that is no part of any expression. -/
def Foreign (c : Char) : Prop := isSpecial c = false ∧ isOperand c = false

/-- A closing parenthesis outside all groups. -/
def ClosesNothing (s : Scan) (c : Char) : Prop := c = ')' ∧ s.depth = 0

/-- A repetition of nothing. -/
def RepeatsNothing (s : Scan) (c : Char) : Prop := (c = '*' ∨ c = '+') ∧ s.operands.length = 0

/-- The end of a group that is short of operands. -/
def ClosesShort (s : Scan) (c : Char) : Prop := c = ')' ∧ 0 < s.depth ∧ s.Short

theorem read_eq_invalidChar {d : Char} {position : Nat} :
    (s.read c).result = .error (.invalidChar d position) ↔
      d = c ∧ position = s.position ∧ Foreign c := by
  rw [read_eq_error]
  apply Iff.intro
  · intro h
    cases h with
    | shortage _ failed =>
      obtain ⟨_, hne⟩ := Level.collapse_eq_error failed
      cases hne
    | foreign hoperand hspecial => exact ⟨rfl, rfl, hspecial, hoperand⟩
  · intro h
    obtain ⟨rfl, rfl, hspecial, hoperand⟩ := h
    exact .foreign hoperand hspecial

theorem read_eq_unbalancedParen {position : Nat} :
    (s.read c).result = .error (.unbalancedParen position) ↔
      position = s.position ∧ s.ClosesNothing c := by
  rw [read_eq_error]
  apply Iff.intro
  · intro h
    cases h with
    | shortage _ failed =>
      obtain ⟨_, hne⟩ := Level.collapse_eq_error failed
      cases hne
    | unbalanced outside => exact ⟨rfl, rfl, depth_eq_zero.2 outside⟩
  · intro h
    obtain ⟨rfl, rfl, hdepth⟩ := h
    exact .unbalanced (depth_eq_zero.1 hdepth)

theorem read_eq_missingOperand_self :
    (s.read c).result = .error (.missingOperand c) ↔ s.RepeatsNothing c := by
  rw [read_eq_error]
  apply Iff.intro
  · intro h
    generalize herror : CompileError.missingOperand c = error at h
    cases h with
    | star bare => exact ⟨.inl rfl, List.length_eq_zero_iff.2 bare⟩
    | plus bare => exact ⟨.inr rfl, List.length_eq_zero_iff.2 bare⟩
    | unbalanced => cases herror
    | shortage _ failed =>
      obtain ⟨operator, hoperator⟩ := Level.collapse_eq_error failed
      rw [hoperator] at herror
      cases operator <;> cases herror
    | foreign => cases herror
  · intro h
    obtain ⟨rfl | rfl, hnone⟩ := h
    · exact .star (List.length_eq_zero_iff.1 hnone)
    · exact .plus (List.length_eq_zero_iff.1 hnone)

theorem read_eq_missingOperand_operator :
    (∃ operator : Operator, (s.read c).result = .error (.missingOperand operator.symbol)) ↔
      s.ClosesShort c := by
  simp only [read_eq_error]
  apply Iff.intro
  · intro h
    obtain ⟨operator, h⟩ := h
    generalize herror : CompileError.missingOperand operator.symbol = error at h
    cases h with
    | star => cases operator <;> cases herror
    | plus => cases operator <;> cases herror
    | unbalanced => cases herror
    | shortage inside failed =>
      rw [← herror] at failed
      exact ⟨rfl, depth_pos.2 ⟨_, _, inside⟩, short_iff.2 ⟨operator, failed⟩⟩
    | foreign => cases herror
  · intro h
    obtain ⟨rfl, hdepth, hshort⟩ := h
    obtain ⟨level, outer, inside⟩ := depth_pos.1 hdepth
    obtain ⟨operator, failed⟩ := short_iff.1 hshort
    exact ⟨operator, .shortage inside failed⟩

/-- A character is refused for one of four reasons, and read if there is none of them. -/
theorem read_succeeds_iff :
    (∃ t, (s.read c).result = .ok t) ↔
      ¬Foreign c ∧ ¬s.ClosesNothing c ∧ ¬s.RepeatsNothing c ∧ ¬s.ClosesShort c := by
  apply Iff.intro
  · intro h
    obtain ⟨t, ht⟩ := h
    have hne : ∀ error, (s.read c).result ≠ .error error := by simp [ht]
    refine ⟨?_, ?_, ?_, ?_⟩
    · intro hforeign
      exact hne _ (read_eq_invalidChar.2 ⟨rfl, rfl, hforeign⟩)
    · intro hcloses
      exact hne _ (read_eq_unbalancedParen.2 ⟨rfl, hcloses⟩)
    · intro hrepeats
      exact hne _ (read_eq_missingOperand_self.2 hrepeats)
    · intro hshort
      obtain ⟨operator, herror⟩ := read_eq_missingOperand_operator.2 hshort
      exact hne _ herror
  · intro h
    obtain ⟨hforeign, hcloses, hrepeats, hshort⟩ := h
    cases hread : (s.read c).result with
    | ok t => exact ⟨t, rfl⟩
    | error error =>
      exfalso
      cases read_eq_error.1 hread with
      | star bare => exact hrepeats (read_eq_missingOperand_self.1 hread)
      | plus bare => exact hrepeats (read_eq_missingOperand_self.1 hread)
      | unbalanced outside => exact hcloses (read_eq_unbalancedParen.1 hread).2
      | shortage inside failed =>
        obtain ⟨operator, rfl⟩ := Level.collapse_eq_error failed
        exact hshort (read_eq_missingOperand_operator.1 ⟨operator, hread⟩)
      | foreign => exact hforeign (read_eq_invalidChar.1 hread).2.2

theorem finish_eq_missingOperand :
    (∃ operator : Operator, s.finish.result = .error (.missingOperand operator.symbol)) ↔
      s.Short := by
  rw [short_iff]
  apply exists_congr
  intro operator
  rw [finish_eq_error]
  simp

theorem finish_eq_unclosedParen :
    s.finish.result = .error .unclosedParen ↔ ¬s.Short ∧ 0 < s.depth := by
  rw [not_short_iff, Nat.pos_iff_ne_zero, Ne, depth_eq_zero, finish_eq_error]
  apply Iff.intro
  · intro h
    rcases h with failed | ⟨out, collapsed, ⟨hopen, -⟩ | ⟨-, -, hne⟩⟩
    · obtain ⟨_, hne⟩ := Level.collapse_eq_error failed
      cases hne
    · exact ⟨⟨out, collapsed⟩, hopen⟩
    · cases hne
  · intro h
    obtain ⟨⟨out, collapsed⟩, hopen⟩ := h
    exact .inr ⟨out, collapsed, .inl ⟨hopen, rfl⟩⟩

theorem finish_eq_emptyExpression :
    s.finish.result = .error .emptyExpression ↔
      ¬s.Short ∧ s.depth = 0 ∧ s.operands.length = 0 := by
  rw [not_short_iff, depth_eq_zero, List.length_eq_zero_iff, finish_eq_error]
  apply Iff.intro
  · intro h
    rcases h with failed | ⟨out, collapsed, ⟨-, hne⟩ | ⟨hclosed, hnone, -⟩⟩
    · obtain ⟨_, hne⟩ := Level.collapse_eq_error failed
      cases hne
    · cases hne
    · exact ⟨⟨out, collapsed⟩, hclosed, (Level.collapse_eq_nil_iff collapsed).1 hnone⟩
  · intro h
    obtain ⟨⟨out, collapsed⟩, hclosed, hnone⟩ := h
    have hout := (Level.collapse_eq_nil_iff collapsed).2 hnone
    exact .inr ⟨out, collapsed, .inr ⟨hclosed, hout, rfl⟩⟩

theorem finish_succeeds_iff :
    (∃ a, s.finish.result = .ok a) ↔ ¬s.Short ∧ s.depth = 0 ∧ 0 < s.operands.length := by
  simp only [finish_eq_ok]
  rw [not_short_iff, depth_eq_zero, List.length_pos_iff]
  apply Iff.intro
  · intro h
    obtain ⟨a, hclosed, below, collapsed⟩ := h
    refine ⟨⟨_, collapsed⟩, hclosed, ?_⟩
    intro hnone
    have hout := (Level.collapse_eq_nil_iff collapsed).2 hnone
    cases hout
  · intro h
    obtain ⟨⟨out, collapsed⟩, hclosed, hsome⟩ := h
    have hout : out ≠ [] := fun hnone => hsome ((Level.collapse_eq_nil_iff collapsed).1 hnone)
    obtain ⟨a, below, rfl⟩ := List.exists_cons_of_ne_nil hout
    exact ⟨a, hclosed, below, collapsed⟩

theorem length_waiting (houter : s.outer = []) : s.waiting.length = s.level.length := by
  simp [waiting, houter]

/-- An end without a fault finds one operand more than there are operators. -/
theorem length_of_finish {a : Automaton} (h : s.finish.result = .ok a)
    (hs : s.operands.length ≤ s.room) : s.operands.length = s.waiting.length + 1 := by
  obtain ⟨houter, collapsed⟩ := collapse_of_finish h hs
  have hlength := Level.length_collapse collapsed
  rw [length_waiting houter]
  rw [List.length_singleton] at hlength
  omega

/-- What a scan refuses, and why, after any text that was read without a fault. Only the number of
operands and that of the operators behind the last open parenthesis matter for the want of operands;
it comes before an open group is noticed, and that before there is no operand at all. -/
theorem faults_of_readAll (h : (({} : Scan).readAll text).result = .ok s) :
    (∀ c,
      (∀ d position, (s.read c).result = .error (.invalidChar d position) ↔
        d = c ∧ position = s.position ∧ Foreign c) ∧
      (∀ position, (s.read c).result = .error (.unbalancedParen position) ↔
        position = s.position ∧ s.ClosesNothing c) ∧
      ((s.read c).result = .error (.missingOperand c) ↔ s.RepeatsNothing c) ∧
      ((∃ operator : Operator, (s.read c).result = .error (.missingOperand operator.symbol)) ↔
        s.ClosesShort c) ∧
      ((∃ t, (s.read c).result = .ok t) ↔
        ¬Foreign c ∧ ¬s.ClosesNothing c ∧ ¬s.RepeatsNothing c ∧ ¬s.ClosesShort c)) ∧
    ((∃ operator : Operator, s.finish.result = .error (.missingOperand operator.symbol)) ↔
      s.Short) ∧
    (s.finish.result = .error .unclosedParen ↔ ¬s.Short ∧ 0 < s.depth) ∧
    (s.finish.result = .error .emptyExpression ↔
      ¬s.Short ∧ s.depth = 0 ∧ s.operands.length = 0) ∧
    ((∃ a, s.finish.result = .ok a) ↔ ¬s.Short ∧ s.depth = 0 ∧ 0 < s.operands.length) ∧
    ∀ a, s.finish.result = .ok a → s.operands.length = s.waiting.length + 1 := by
  have hroom := (room_readAll h (Nat.zero_le _)).1
  refine ⟨?_, finish_eq_missingOperand, finish_eq_unclosedParen, finish_eq_emptyExpression,
    finish_succeeds_iff, ?_⟩
  · intro c
    exact ⟨fun _ _ => read_eq_invalidChar, fun _ => read_eq_unbalancedParen,
      read_eq_missingOperand_self, read_eq_missingOperand_operator, read_succeeds_iff⟩
  · intro a hfinish
    exact length_of_finish hfinish hroom

/-- The bar's missing operand is noticed although the group is open, and a letter still helps. -/
theorem faults_open_alternative :
    (∃ s, (({} : Scan).readAll "(a|".toList).result = .ok s ∧ 0 < s.depth ∧
      (∃ operator : Operator, (s.read ')').result = .error (.missingOperand operator.symbol)) ∧
      (∃ operator : Operator, s.finish.result = .error (.missingOperand operator.symbol)) ∧
      s.finish.result ≠ .error .unclosedParen ∧ ∃ t, (s.read 'b').result = .ok t) ∧
    ∃ s a, (({} : Scan).readAll "ab".toList).result = .ok s ∧ s.finish.result = .ok a ∧
      s.operands.length = s.waiting.length + 1 := by
  apply And.intro
  · have hread : (({} : Scan).readAll "(a|".toList).result
        = .ok ⟨[.literal 'a'], [.union], [[]], false, 3⟩ := rfl
    obtain ⟨hchars, hmissing, hunclosed, -⟩ := faults_of_readAll hread
    obtain ⟨-, -, -, hcloses, -⟩ := hchars ')'
    obtain ⟨-, -, -, -, hreads⟩ := hchars 'b'
    have hshort : (Scan.mk [.literal 'a'] [.union] [[]] false 3).Short := by
      simp [Short, due_eq]
    refine ⟨_, hread, by decide, hcloses.2 ⟨rfl, by decide, hshort⟩, hmissing.2 hshort, ?_,
      hreads.2 ⟨?_, ?_, ?_, ?_⟩⟩
    · intro h
      exact (hunclosed.1 h).1 hshort
    · intro h
      exact absurd h.2 (by decide)
    · intro h
      exact absurd h.1 (by decide)
    · intro h
      exact absurd h.1 (by decide)
    · intro h
      exact absurd h.1 (by decide)
  · have hread : (({} : Scan).readAll "ab".toList).result
        = .ok ⟨[.literal 'b', .literal 'a'], [.concat], [], true, 2⟩ := rfl
    obtain ⟨-, -, -, -, hends, hlength⟩ := faults_of_readAll hread
    obtain ⟨a, ha⟩ := hends.2 ⟨by simp [Short, due_eq], by decide, by decide⟩
    exact ⟨_, a, hread, ha, hlength a ha⟩

end Scan

end RegexMachine
