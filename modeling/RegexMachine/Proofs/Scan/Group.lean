import RegexMachine.Proofs.Scan.Counts

namespace RegexMachine

namespace Level

variable {level : List Operator} {operands out : List Automaton}

/-- A level that finds all its operands takes none of those below them. -/
theorem collapse_append (h : (collapse level operands).result = .ok out)
    (below : List Automaton) : (collapse level (operands ++ below)).result = .ok (out ++ below) := by
  induction level, operands using collapse.induct with
  | case1 operands =>
    rw [collapse_nil_eq_ok.1 h]
    exact collapse_nil_eq_ok.2 rfl
  | case2 level operands ih =>
    obtain ⟨right, left, rest, rfl, hrest⟩ := collapse_concat_eq_ok.1 h
    exact collapse_concat_eq_ok.2 ⟨right, left, rest ++ below, rfl, ih _ hrest⟩
  | case3 level operands ih =>
    obtain ⟨right, factors, first, rest, rfl, hfactors, hrest⟩ := collapse_union_eq_ok.1 h
    have hoperands : right :: (factors ++ first :: rest) ++ below
        = right :: (factors ++ first :: (rest ++ below)) := by simp
    exact collapse_union_eq_ok.2
      ⟨right, factors, first, rest ++ below, hoperands, hfactors, ih _ hrest⟩

end Level

namespace Scan

variable {s t inner next : Scan} {c : Char} {text : List Char}

/-- The scan `inner` of a text by itself, put on top of `s`, where the text begins a group. -/
def inGroup (s inner : Scan) : Scan where
  operands := inner.operands ++ s.operands
  level := inner.level
  outer := inner.outer ++ s.joined :: s.outer
  joins := inner.joins
  position := s.position + 1 + inner.position

theorem inGroup_empty (s : Scan) : Step s '(' (s.inGroup {}) := .opening

/-- What a text does by itself it also does inside a group, above everything that lies below. -/
theorem step_inGroup (s : Scan) (h : Step inner c next) :
    Step (s.inGroup inner) c (s.inGroup next) := by
  cases h with
  | space => exact .space
  | @star last below top =>
    have htop : (s.inGroup inner).operands = last :: (below ++ s.operands) := by simp [inGroup, top]
    exact .star htop
  | @plus last below top =>
    have htop : (s.inGroup inner).operands = last :: (below ++ s.operands) := by simp [inGroup, top]
    exact .plus htop
  | opening => exact .opening
  | @closing level outer operands inside collapsed =>
    have hinside : (s.inGroup inner).outer = level :: (outer ++ s.joined :: s.outer) := by
      simp [inGroup, inside]
    exact .closing hinside (Level.collapse_append collapsed s.operands)
  | bar => exact .bar
  | operand hc => exact .operand hc

theorem readAll_inGroup (s : Scan) (h : (inner.readAll text).result = .ok next) :
    ((s.inGroup inner).readAll text).result = .ok (s.inGroup next) := by
  induction text generalizing inner with
  | nil => exact readAll_nil_eq_ok.2 (congrArg s.inGroup (readAll_nil_eq_ok.1 h))
  | cons c text ih =>
    obtain ⟨mid, hstep, hrest⟩ := readAll_cons_eq_ok.1 h
    exact readAll_cons_eq_ok.2 ⟨_, step_inGroup s hstep, ih hrest⟩

/-- Where a text ends well by itself, a closing parenthesis leaves its automaton on top of `s`. -/
theorem step_close (s : Scan) {a : Automaton} (h : inner.finish.result = .ok a)
    (hroom : inner.operands.length ≤ inner.room) :
    Step (s.inGroup inner) ')'
      ⟨a :: s.operands, s.joined, s.outer, true, s.position + 1 + inner.position + 1⟩ := by
  obtain ⟨houter, collapsed⟩ := collapse_of_finish h hroom
  have hinside : (s.inGroup inner).outer = s.joined :: s.outer := by simp [inGroup, houter]
  exact .closing hinside (Level.collapse_append collapsed s.operands)

/-- Behind the text of a group, the scan holds one operand more. -/
theorem readAll_group (s : Scan) {a : Automaton} (h : (compile text).result = .ok a) :
    (s.readAll ('(' :: text ++ [')'])).result =
      .ok ⟨a :: s.operands, s.joined, s.outer, true, s.position + (text.length + 2)⟩ := by
  obtain ⟨inner, hread, hfinish⟩ := compile_eq_ok.1 h
  have hroom := (room_readAll hread (Nat.zero_le _)).1
  have hposition : inner.position = 0 + text.length := position_readAll hread
  have hclose := step_close s hfinish hroom
  have hend : s.position + 1 + inner.position + 1 = s.position + (text.length + 2) := by omega
  rw [hend] at hclose
  have hlast := readAll_cons_eq_ok.2 ⟨_, hclose, readAll_nil_eq_ok.2 rfl⟩
  have hinside := readAll_append_eq_ok.2 ⟨_, readAll_inGroup s hread, hlast⟩
  exact readAll_cons_eq_ok.2 ⟨_, inGroup_empty s, hinside⟩

theorem waiting_joined (s : Scan) (operands : List Automaton) (joins : Bool) (position : Nat) :
    (Scan.mk operands s.joined s.outer joins position).waiting
      = s.waiting ++ if s.joins = true then ['.'] else [] := by
  simp only [waiting, joined]
  cases s.joins with
  | false => simp
  | true => simp [Operator.symbol]

/-- A text that compiles by itself can stand in parentheses anywhere. It is read there as it is
alone, above whatever was read before; in the end its automaton is one operand more, joined to the one
before if there was one to join, and all else is as it was. -/
theorem group_opaque {a : Automaton} (h : (compile text).result = .ok a) (s : Scan) :
    (∀ start, start <+: text → ∃ inner, (({} : Scan).readAll start).result = .ok inner ∧
      (s.readAll ('(' :: start)).result = .ok (s.inGroup inner)) ∧
    ∃ t, (s.readAll ('(' :: text ++ [')'])).result = .ok t ∧
      t.operands = a :: s.operands ∧
      t.waiting = s.waiting ++ (if s.joins = true then ['.'] else []) ∧
      t.depth = s.depth ∧ t.joins = true ∧ t.position = s.position + (text.length + 2) := by
  apply And.intro
  · intro start hstart
    obtain ⟨rest, rfl⟩ := hstart
    obtain ⟨whole, hread, -⟩ := compile_eq_ok.1 h
    obtain ⟨inner, hinner, -⟩ := readAll_append_eq_ok.1 hread
    have hgroup := readAll_cons_eq_ok.2 ⟨_, inGroup_empty s, readAll_inGroup s hinner⟩
    exact ⟨inner, hinner, hgroup⟩
  · refine ⟨_, readAll_group s h, rfl, ?_, rfl, rfl, rfl⟩
    exact waiting_joined s _ _ _

/-- Not even a bar without its left operand reaches into the group behind it. -/
theorem group_opaque_behind_bar :
    (compile "c|d".toList).result = .ok ((Automaton.literal 'c').union (.literal 'd')) ∧
    ∃ s t, (({} : Scan).readAll "b(|".toList).result = .ok s ∧
      (s.readAll "(c|d)".toList).result = .ok t ∧
      t.operands = [(Automaton.literal 'c').union (.literal 'd'), .literal 'b'] ∧
      t.waiting = ['.', '(', '|'] ∧ t.depth = 1 ∧ t.joins = true ∧ t.position = 8 := by
  have hletters : (({} : Scan).readAll "c|d".toList).result
      = .ok ⟨[.literal 'd', .literal 'c'], [.union], [], true, 3⟩ := rfl
  have hbar : (Level.collapse [.union] [.literal 'd', .literal 'c']).result
      = .ok [(Automaton.literal 'c').union (.literal 'd')] :=
    Level.collapse_union_eq_ok.2 ⟨_, [], _, [], rfl, rfl, Level.collapse_nil_eq_ok.2 rfl⟩
  have hcompile : (compile "c|d".toList).result
      = .ok ((Automaton.literal 'c').union (.literal 'd')) :=
    compile_eq_ok.2 ⟨_, hletters, finish_eq_ok.2 ⟨rfl, [], hbar⟩⟩
  have hread : (({} : Scan).readAll "b(|".toList).result
      = .ok ⟨[.literal 'b'], [.union], [[.concat]], false, 3⟩ := rfl
  obtain ⟨-, t, hgroup, hoperands, hwaiting, hdepth, hjoins, hposition⟩ :=
    group_opaque hcompile ⟨[.literal 'b'], [.union], [[.concat]], false, 3⟩
  exact ⟨hcompile, _, t, hread, hgroup, hoperands, hwaiting, hdepth, hjoins, hposition⟩

end Scan

end RegexMachine
