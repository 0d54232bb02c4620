import RegexMachine.Proofs.Expression.Parts
import RegexMachine.Proofs.Scan.Collapse
import RegexMachine.Proofs.Scan.Step

namespace RegexMachine

namespace Tree

/-- What the scan has put on its operands after the text of the tree, the last one first. -/
def operands : {p : Phrase} → Tree p → List Automaton
  | _, operand c _ => [.literal c]
  | _, group inner => [inner.automaton]
  | _, once item => item.operands
  | _, star item => item.operands.map .star
  | _, plus item => item.operands.map .plus
  | _, final item => item.operands
  | _, followed item rest => rest.operands ++ item.operands
  | _, only item => item.operands
  | _, either item rest => rest.operands ++ item.operands

/-- The operators that then wait between these operands, the last one first. -/
def operators : {p : Phrase} → Tree p → List Operator
  | _, operand _ _ => []
  | _, group _ => []
  | _, once item => item.operators
  | _, star item => item.operators
  | _, plus item => item.operators
  | _, final item => item.operators
  | _, followed item rest => rest.operators ++ .concat :: item.operators
  | _, only item => item.operators
  | _, either item rest => rest.operators ++ .union :: item.operators

theorem operands_atom (t : Tree .atom) : t.operands = t.parts ∧ t.operators = [] := by
  cases t with
  | operand c _ => exact ⟨rfl, rfl⟩
  | group inner => exact ⟨rfl, rfl⟩

theorem operands_repetition : (t : Tree .repetition) → t.operands = t.parts ∧ t.operators = []
  | once item => item.operands_atom
  | star item => by
    obtain ⟨hoperands, hoperators⟩ := item.operands_repetition
    exact ⟨congrArg (List.map Automaton.star) hoperands, hoperators⟩
  | plus item => by
    obtain ⟨hoperands, hoperators⟩ := item.operands_repetition
    exact ⟨congrArg (List.map Automaton.plus) hoperands, hoperators⟩

theorem factors_sequence : (t : Tree .sequence) →
    ∃ first rest, t.parts = first :: rest ∧ t.operands = (first :: rest).reverse ∧
      t.operators = List.replicate rest.length .concat
  | final item => by
    obtain ⟨a, hparts⟩ := item.parts_repetition
    obtain ⟨hoperands, hoperators⟩ := item.operands_repetition
    exact ⟨a, [], hparts, hoperands.trans hparts, hoperators⟩
  | followed item rest => by
    obtain ⟨a, hparts⟩ := item.parts_repetition
    obtain ⟨hoperands, hoperators⟩ := item.operands_repetition
    obtain ⟨first, others, hparts', hoperands', hoperators'⟩ := rest.factors_sequence
    refine ⟨a, first :: others, ?_, ?_, ?_⟩
    · simp [parts, hparts, hparts']
    · simp [operands, hoperands, hparts, hoperands']
    · simp [operators, hoperators, hoperators', List.replicate_succ']

end Tree

namespace Level

/-- A run of concatenations joins its operands from the last one back. -/
theorem result_collapse_run (last : Automaton) (factors : List Automaton)
    (level : List Operator) (below : List Automaton) :
    (collapse (List.replicate factors.length .concat ++ level) (last :: (factors ++ below))).result
      = (collapse level (factors.reverse.foldr .concat last :: below)).result := by
  induction factors generalizing last with
  | nil => rfl
  | cons factor factors ih =>
    rw [List.length_cons, List.replicate_succ, List.cons_append, List.cons_append,
      result_collapse_concat, ih (factor.concat last), List.reverse_cons, List.foldr_append]
    rfl

/-- That makes the same automaton as joining them from the first one on. -/
theorem result_collapse_sequence (last : Automaton) (factors : List Automaton)
    (level : List Operator) (below : List Automaton) (h : ∀ a ∈ factors, a.Proper) :
    (collapse (List.replicate factors.length .concat ++ level) (last :: (factors ++ below))).result
      = (collapse level (.sequence (factors.reverse ++ [last]) :: below)).result := by
  have hstart : ∀ a ∈ factors.reverse, a.start < a.states :=
    fun a ha => (h a (List.mem_reverse.1 ha)).start_lt
  rw [result_collapse_run, Automaton.foldr_concat_eq_sequence hstart]

/-- What a union takes into its left operand: the concatenations directly before it. -/
theorem takeWhile_joints (joints : Nat) {level : List Operator}
    (hlevel : level.head? ≠ some .concat) :
    (List.replicate joints Operator.concat ++ level).takeWhile (· = .concat)
        = List.replicate joints Operator.concat ∧
      (List.replicate joints Operator.concat ++ level).dropWhile (· = .concat) = level := by
  induction joints with
  | zero =>
    cases level with
    | nil => exact ⟨rfl, rfl⟩
    | cons operator level =>
      have hne : operator ≠ .concat := by simpa using hlevel
      simp [hne]
  | succ joints ih => simpa [List.replicate_succ] using ih

theorem result_collapse_tree : (t : Tree .choice) → {level : List Operator} →
    {below : List Automaton} → level.head? ≠ some .concat →
    (collapse (t.operators ++ level) (t.operands ++ below)).result
      = (collapse level (t.automaton :: below)).result
  | .only item, level, below, _ => by
    obtain ⟨first, rest, hparts, hoperands, hoperators⟩ := item.factors_sequence
    have hproper := item.proper_parts
    rw [hparts] at hproper
    obtain ⟨factors, last, hlast⟩ : ∃ factors last, first :: rest = factors ++ [last] :=
      ⟨_, _, (List.dropLast_append_getLast (List.cons_ne_nil first rest)).symm⟩
    have hlength : rest.length = factors.reverse.length := by
      have h := congrArg List.length hlast
      simpa using h
    have hfactors : ∀ a ∈ factors.reverse, a.Proper := by
      intro a ha
      apply hproper
      rw [hlast]
      exact List.mem_append_left _ (List.mem_reverse.1 ha)
    have hcollapse := result_collapse_sequence last factors.reverse level below hfactors
    rw [List.reverse_reverse, ← hlast, ← hlength] at hcollapse
    have hstack : (first :: rest).reverse ++ below = last :: (factors.reverse ++ below) := by
      simp [hlast]
    simp only [Tree.operators, Tree.operands, hoperators, hoperands, hstack, hcollapse,
      Tree.automaton_only, hparts]
  | .either item rest, level, below, hlevel => by
    obtain ⟨first, others, hparts, hoperands, hoperators⟩ := item.factors_sequence
    obtain ⟨htake, hdrop⟩ := takeWhile_joints others.length hlevel
    have hjoints : others.reverse.length = ((List.replicate others.length Operator.concat
        ++ level).takeWhile (· = .concat)).length := by
      rw [htake, List.length_reverse, List.length_replicate]
    simp only [Tree.operators, Tree.operands, hoperators, hoperands, List.append_assoc,
      List.cons_append, List.reverse_cons, List.nil_append]
    rw [result_collapse_tree rest (by simp),
      result_collapse_union rest.automaton first others.reverse below hjoints, hdrop,
      Automaton.foldr_reverse_eq_sequence, Tree.automaton_either, hparts]

end Level

namespace Scan

/-- From any state, the text of a tree adds the tree's operands and operators and nothing else. -/
theorem readAll_text {p : Phrase} (t : Tree p) (s : Scan) :
    (s.readAll t.text).result = .ok { s with
      operands := t.operands ++ s.operands, level := t.operators ++ s.joined, joins := true,
      position := s.position + t.text.length } := by
  induction t generalizing s with
  | operand c hc => exact readAll_cons_eq_ok.2 ⟨_, .operand hc, readAll_nil_eq_ok.2 rfl⟩
  | group inner ih =>
    have hcollapse : (Level.collapse (inner.operators ++ []) (inner.operands ++ s.operands)).result
        = .ok (inner.automaton :: s.operands) := by
      rw [Level.result_collapse_tree inner (by simp)]
      exact Level.collapse_nil_eq_ok.2 rfl
    apply readAll_cons_eq_ok.2
    refine ⟨_, .opening, ?_⟩
    apply readAll_append_eq_ok.2
    refine ⟨_, ih _, ?_⟩
    apply readAll_cons_eq_ok.2
    refine ⟨_, .closing rfl hcollapse, ?_⟩
    apply readAll_nil_eq_ok.2
    simp only [Tree.operands, Tree.operators, Tree.text, List.length_append, List.length_cons,
      List.length_nil, List.cons_append, List.nil_append]
    congr 1
    omega
  | once item ih => exact ih s
  | star item ih =>
    obtain ⟨a, hparts⟩ := item.parts_repetition
    have hoperands := item.operands_repetition.1.trans hparts
    have top : item.operands ++ s.operands = a :: s.operands := by simp [hoperands]
    apply readAll_append_eq_ok.2
    refine ⟨_, ih s, ?_⟩
    apply readAll_cons_eq_ok.2
    refine ⟨_, .star top, ?_⟩
    apply readAll_nil_eq_ok.2
    simp [Tree.operands, Tree.operators, Tree.text, hoperands, Nat.add_assoc]
  | plus item ih =>
    obtain ⟨a, hparts⟩ := item.parts_repetition
    have hoperands := item.operands_repetition.1.trans hparts
    have top : item.operands ++ s.operands = a :: s.operands := by simp [hoperands]
    apply readAll_append_eq_ok.2
    refine ⟨_, ih s, ?_⟩
    apply readAll_cons_eq_ok.2
    refine ⟨_, .plus top, ?_⟩
    apply readAll_nil_eq_ok.2
    simp [Tree.operands, Tree.operators, Tree.text, hoperands, Nat.add_assoc]
  | final item ih => exact ih s
  | followed item rest ihi ihr =>
    have hread := readAll_append_eq_ok.2 ⟨_, ihi s, ihr _⟩
    simpa [Tree.operands, Tree.operators, Tree.text, joined, Nat.add_assoc] using hread
  | only item ih => exact ih s
  | either item rest ihi ihr =>
    apply readAll_append_eq_ok.2
    refine ⟨_, ihi s, ?_⟩
    apply readAll_cons_eq_ok.2
    refine ⟨_, .bar, ?_⟩
    rw [ihr]
    simp [Tree.operands, Tree.operators, Tree.text, joined]
    omega

end Scan

end RegexMachine
