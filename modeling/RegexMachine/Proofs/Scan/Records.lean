import RegexMachine.Expression.Levels
import RegexMachine.Proofs.Scan.Spaces
import RegexMachine.Proofs.Scan.Translation

namespace RegexMachine

/-- An operator was applied. -/
def Record.IsReduction (record : Record) : Prop := ∃ operator states, record = .reduced operator states

section

variable {α : Type}

theorem longEnds_cons (first : α) {rest : List α} (h : rest ≠ []) :
    longEnds (first :: rest) = longEnds rest ++ [first :: rest] := by
  obtain ⟨second, others, rfl⟩ := List.exists_cons_of_ne_nil h
  rfl

theorem length_longEnds (l : List α) : (longEnds l).length = l.length - 1 := by
  induction l using longEnds.induct with
  | case1 => rfl
  | case2 => rfl
  | case3 first second rest ih => simp [longEnds, ih]

end

namespace Tree

theorem reductions_either (item : Tree .sequence) (rest : Tree .choice) :
    (either item rest).reductions
      = rest.reductions ++ [.reduced .union (either item rest).automaton.states] := by
  simp [reductions, lastFactors, parts, longEnds_cons _ rest.parts_choice_ne_nil, automaton]

theorem reductions_only (item : Tree .sequence) : (only item).reductions =
    (longEnds item.parts).map fun factors => .reduced .concat (Automaton.sequence factors).states := by
  simp [reductions, lastFactors, parts, longEnds]

end Tree

namespace Automaton

/-- Joining the last two factors of a sequence first takes away its shortest end and leaves the automata of
the others as they are. -/
theorem longEnds_join (factors : List Automaton) {b : Automaton} (hb : b.start < b.states)
    (c : Automaton) : (longEnds (factors ++ [b, c])).map sequence
      = b.concat c :: (longEnds (factors ++ [b.concat c])).map sequence := by
  induction factors with
  | nil => rfl
  | cons factor factors ih =>
    have hjoin := sequence_join (factor :: factors) hb c
    simp only [List.cons_append] at hjoin
    rw [List.cons_append, List.cons_append, longEnds_cons _ (by simp), longEnds_cons _ (by simp)]
    simp [ih, hjoin]

end Automaton

namespace Level

variable {level : List Operator} {operands : List Automaton}

theorem log_collapse_nil (operands : List Automaton) : (collapse [] operands).log = [] := by
  rw [collapse, Logged.log_pure]

theorem log_collapse_concat (right left : Automaton) (below : List Automaton) :
    (collapse (.concat :: level) (right :: left :: below)).log
      = .reduced .concat (left.concat right).states
        :: (collapse level (left.concat right :: below)).log := by
  have happly : applyConcat (right :: left :: below) = .ok (left.concat right :: below) := rfl
  rw [collapse, happly, Logged.log_bind_ok (Logged.result_ofExcept _),
    Logged.log_bind_ok (report_ok _ _)]
  rfl

theorem log_collapse_union (right first : Automaton) (factors below : List Automaton)
    (hfactors : factors.length = (level.takeWhile (· = .concat)).length) :
    (collapse (.union :: level) (right :: (factors ++ first :: below))).log
      = .reduced .union
          ((factors.foldr (fun factor left => left.concat factor) first).union right).states
        :: (collapse (level.dropWhile (· = .concat))
          ((factors.foldr (fun factor left => left.concat factor) first).union right :: below)).log := by
  have happly := applyUnion_eq_ok.2 ⟨right, factors, first, below, rfl, hfactors, rfl⟩
  rw [collapse, happly, Logged.log_bind_ok (Logged.result_ofExcept _),
    Logged.log_bind_ok (report_ok _ _)]
  rfl

/-- The records of a run of concatenations: one for each end of the sequence that is joined. -/
theorem log_collapse_run (last : Automaton) (factors : List Automaton) (level : List Operator)
    (below : List Automaton) (h : ∀ a ∈ factors, a.start < a.states) :
    (collapse (List.replicate factors.length .concat ++ level) (last :: (factors ++ below))).log
      = (longEnds (factors.reverse ++ [last])).map (fun ends =>
          .reduced .concat (Automaton.sequence ends).states)
        ++ (collapse level (factors.reverse.foldr .concat last :: below)).log := by
  induction factors generalizing last with
  | nil => rfl
  | cons factor factors ih =>
    obtain ⟨hfactor, hfactors⟩ := List.forall_mem_cons.1 h
    have hrest := ih (factor.concat last) hfactors
    have hends := congrArg (List.map fun a => Record.reduced .concat a.states)
      (Automaton.longEnds_join factors.reverse hfactor last)
    simp only [List.map_cons, List.map_map, Function.comp_def] at hends
    simp only [List.length_cons, List.replicate_succ, List.cons_append, List.reverse_cons,
      List.append_assoc, List.nil_append, List.foldr_append, List.foldr_cons, List.foldr_nil]
    rw [log_collapse_concat, hrest, hends, List.cons_append]

/-- The end of a level records what its parse tree says, whatever lies below the level. -/
theorem log_collapse_tree : (t : Tree .choice) → {level : List Operator} → {below : List Automaton} →
    level.head? ≠ some .concat →
    (collapse (t.operators ++ level) (t.operands ++ below)).log
      = t.reductions ++ (collapse level (t.automaton :: below)).log
  | .only item, level, below, _ => by
    obtain ⟨first, rest, hparts, hoperands, hoperators⟩ := item.factors_sequence
    obtain ⟨factors, last, hlast⟩ : ∃ factors last, first :: rest = factors ++ [last] :=
      ⟨_, _, (List.dropLast_append_getLast (List.cons_ne_nil first rest)).symm⟩
    have hlength : rest.length = factors.reverse.length := by
      have h := congrArg List.length hlast
      simpa using h
    have hstart : ∀ a ∈ factors, a.start < a.states := by
      intro a ha
      have hmem : a ∈ item.parts := by simp [hparts, hlast, ha]
      exact (item.proper_parts a hmem).start_lt
    have hrun := log_collapse_run last factors.reverse level below
      (fun a ha => hstart a (List.mem_reverse.1 ha))
    rw [List.reverse_reverse, ← hlast, ← hlength, Automaton.foldr_concat_eq_sequence hstart,
      ← hlast] at hrun
    have hstack : (first :: rest).reverse ++ below = last :: (factors.reverse ++ below) := by
      simp [hlast]
    simp only [Tree.operators, Tree.operands, hoperators, hoperands, hstack, hrun,
      Tree.reductions_only, Tree.automaton_only, hparts]
  | .either item rest, level, below, hlevel => by
    obtain ⟨first, others, hparts, hoperands, hoperators⟩ := item.factors_sequence
    obtain ⟨htake, hdrop⟩ := takeWhile_joints others.length hlevel
    have hjoints : others.reverse.length = ((List.replicate others.length Operator.concat
        ++ level).takeWhile (· = .concat)).length := by
      rw [htake, List.length_reverse, List.length_replicate]
    simp only [Tree.operators, Tree.operands, hoperators, hoperands, List.append_assoc,
      List.cons_append, List.reverse_cons, List.nil_append]
    rw [log_collapse_tree rest (by simp),
      log_collapse_union rest.automaton first others.reverse below hjoints, hdrop,
      Automaton.foldr_reverse_eq_sequence, Tree.reductions_either, Tree.automaton_either, hparts,
      List.append_assoc, List.singleton_append]

theorem log_collapse_level (t : Tree .choice) (below : List Automaton) :
    (collapse t.operators (t.operands ++ below)).log = t.reductions := by
  have htree : (collapse (t.operators ++ []) (t.operands ++ below)).log
      = t.reductions ++ (collapse [] (t.automaton :: below)).log := log_collapse_tree t (by simp)
  simpa [log_collapse_nil] using htree

theorem isReduction_report (operator : Operator) (operands : List Automaton) :
    ∀ record ∈ (report operator operands).log, record.IsReduction := by
  cases operands with
  | nil => simp [report]
  | cons top below => simp [report, Record.IsReduction]

theorem isReduction_collapse (level : List Operator) (operands : List Automaton) :
    ∀ record ∈ (collapse level operands).log, record.IsReduction := by
  induction level, operands using collapse.induct with
  | case1 operands => simp [log_collapse_nil]
  | case2 level operands ih =>
    rw [collapse]
    refine Logged.forall_log_bind (by simp) fun applied => ?_
    exact Logged.forall_log_bind (isReduction_report _ _) fun _ => ih applied
  | case3 level operands ih =>
    rw [collapse]
    refine Logged.forall_log_bind (by simp) fun applied => ?_
    exact Logged.forall_log_bind (isReduction_report _ _) fun _ => ih applied

end Level

namespace Scan

variable {s t : Scan} {c : Char} {text : List Char}

/-- Of all characters only one that closes a group leaves records, those of the end of a level. -/
theorem log_read (s : Scan) (c : Char) : (s.read c).log =
    if c = ')' ∧ s.outer ≠ [] then (Level.collapse s.level s.operands).log else [] := by
  by_cases hclose : c = ')'
  · subst hclose
    cases houter : s.outer with
    | nil => simp [read, houter]
    | cons level outer =>
      simp only [read, houter, ne_eq, reduceCtorEq, not_false_eq_true, and_self, if_true]
      exact Logged.log_bind_of_silent fun _ => rfl
  · simp only [hclose, false_and, if_false, read]
    split_ifs <;> rfl

theorem log_read_of_ne (s : Scan) (hc : c ≠ ')') : (s.read c).log = [] := by
  simp [log_read, hc]

theorem log_readAll_step (h : Step s c t) (rest : List Char) :
    (s.readAll (c :: rest)).log = (s.read c).log ++ (t.readAll rest).log :=
  Logged.log_bind_ok (read_eq_ok.2 h)

theorem log_readAll_fault {error : CompileError} (h : Fault s c error) (rest : List Char) :
    (s.readAll (c :: rest)).log = (s.read c).log :=
  Logged.log_bind_error (read_eq_error.2 h)

theorem readAll_append (s : Scan) (first second : List Char) :
    s.readAll (first ++ second) = s.readAll first >>= fun t => t.readAll second := by
  induction first generalizing s with
  | nil => rfl
  | cons c first ih => simp only [List.cons_append, readAll, ih, Logged.bind_assoc]

theorem log_readAll_append (h : (s.readAll text).result = .ok t) (rest : List Char) :
    (s.readAll (text ++ rest)).log = (s.readAll text).log ++ (t.readAll rest).log := by
  rw [readAll_append, Logged.log_bind_ok h]

theorem log_readAll_singleton (s : Scan) (c : Char) : (s.readAll [c]).log = (s.read c).log :=
  Logged.log_bind_of_silent fun _ => rfl

/-- From any state, the text of a tree records what the ends of the groups in it record. -/
theorem log_readAll_text {p : Phrase} (t : Tree p) (s : Scan) :
    (s.readAll t.text).log = t.groups.flatMap Tree.reductions := by
  induction t generalizing s with
  | operand c hc =>
    have hclose := isOperand_ne hc (d := ')') rfl
    simp [Tree.text, Tree.groups, log_readAll_singleton, log_read_of_ne s hclose]
  | group inner ih =>
    have hopen : Step s '(' _ := .opening
    rw [Tree.text, List.cons_append, log_readAll_step hopen, log_readAll_append (readAll_text inner _),
      ih, log_readAll_singleton, log_read_of_ne s (by decide), log_read]
    simp [Tree.groups, joined, Level.log_collapse_level]
  | once item ih => exact ih s
  | star item ih =>
    rw [Tree.text, log_readAll_append (readAll_text item s), ih, log_readAll_singleton,
      log_read_of_ne _ (by decide), List.append_nil, Tree.groups]
  | plus item ih =>
    rw [Tree.text, log_readAll_append (readAll_text item s), ih, log_readAll_singleton,
      log_read_of_ne _ (by decide), List.append_nil, Tree.groups]
  | final item ih => exact ih s
  | followed item rest ihi ihr =>
    rw [Tree.text, log_readAll_append (readAll_text item s), ihi, ihr, Tree.groups,
      List.flatMap_append]
  | only item ih => exact ih s
  | either item rest ihi ihr =>
    rw [Tree.text, log_readAll_append (readAll_text item s), log_readAll_step .bar,
      log_read_of_ne _ (by decide), ihi, ihr, Tree.groups, List.flatMap_append, List.nil_append]

/-- A space records nothing, and no record tells a position. -/
theorem log_readAll_withoutSpaces (s : Scan) (text : List Char) (n : Nat) :
    (s.readAll text).log = ((s.atPosition n).readAll (withoutSpaces text)).log := by
  induction text generalizing s n with
  | nil => rfl
  | cons c text ih =>
    by_cases hc : c = ' '
    · subst hc
      rw [withoutSpaces_space, log_readAll_step .space, log_read_of_ne s (by decide)]
      exact ih (s.atPosition (s.position + 1)) n
    · rw [withoutSpaces_cons hc]
      have hread : ((s.atPosition n).read c).log = (s.read c).log := by
        rw [log_read, log_read]
        rfl
      rcases s.step_or_fault c with ⟨next, hstep⟩ | ⟨error, hfault⟩
      · rw [log_readAll_step hstep, log_readAll_step (step_atPosition hstep n), hread,
          ih next (n + 1)]
      · have hmoved := fault_atPosition hfault fun _ => n
        rw [log_readAll_fault hfault, log_readAll_fault hmoved, hread]

theorem isReduction_readAll (s : Scan) (text : List Char) :
    ∀ record ∈ (s.readAll text).log, record.IsReduction := by
  induction text generalizing s with
  | nil => simp [readAll]
  | cons c text ih =>
    refine Logged.forall_log_bind ?_ ih
    rw [log_read]
    split_ifs
    · exact Level.isReduction_collapse _ _
    · simp

theorem log_finish (s : Scan) : s.finish.log = (Level.collapse s.level s.operands).log := by
  apply Logged.log_bind_of_silent
  intro operands
  split <;> rfl

/-- Reading and ending an expression leave its reductions, and success leaves one record more. -/
theorem log_compile (expression : List Char) : (compile expression).log =
    (({} : Scan).readAll expression >>= finish).log ++
      match (compile expression).result with
      | .ok a => [.compiled expression a.states a.edges.length]
      | .error _ => [] := by
  rw [result_compile, outcome, compile, ← Logged.bind_assoc]
  cases hresult : (({} : Scan).readAll expression >>= finish).result with
  | ok a => exact Logged.log_bind_ok hresult
  | error error => rw [Logged.log_bind_error hresult, List.append_nil]

theorem isReduction_compile {expression : List Char} {error : CompileError}
    (h : (compile expression).result = .error error) :
    ∀ record ∈ (compile expression).log, record.IsReduction := by
  rw [log_compile, h, List.append_nil]
  refine Logged.forall_log_bind (isReduction_readAll _ _) fun s => ?_
  rw [log_finish]
  exact Level.isReduction_collapse _ _

/-- Compiling an expression records the ends of its levels, in the order in which they end, and then the
result. -/
theorem log_compile_parse {expression : List Char} (t : Tree .choice)
    (ht : t.text = withoutSpaces expression) (h : (compile expression).result = .ok t.automaton) :
    (compile expression).log = t.levels.flatMap Tree.reductions
      ++ [.compiled expression t.automaton.states t.automaton.edges.length] := by
  have hread := readAll_text t ({} : Scan)
  rw [ht] at hread
  have hscan := readAll_of_withoutSpaces (s := {}) (n := 0) hread
  have hend := Level.log_collapse_level t []
  rw [List.append_nil] at hend
  rw [log_compile, h, Logged.log_bind_ok hscan, log_finish, log_readAll_withoutSpaces _ _ 0, ← ht,
    log_readAll_text]
  simp [Tree.levels, atPosition, joined, hend]

end Scan

end RegexMachine
