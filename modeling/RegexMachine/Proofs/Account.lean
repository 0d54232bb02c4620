import RegexMachine.Proofs.Compilation
import RegexMachine.Proofs.Diagnosis
import RegexMachine.Proofs.Reached
import RegexMachine.Proofs.Scan.Records

namespace RegexMachine

/-- The operator that was applied, if one was. -/
def Record.operator? : Record → Option Operator
  | reduced operator _ => some operator
  | _ => none

/-- How often a log records that `operator` was applied. -/
def applications (operator : Operator) (log : List Record) : Nat :=
  (log.filterMap Record.operator?).count operator

theorem applications_append (operator : Operator) (first second : List Record) :
    applications operator (first ++ second)
      = applications operator first + applications operator second := by
  simp [applications]

/-- A log without reductions records no application. -/
theorem applications_eq_zero {operator : Operator} {log : List Record}
    (h : ∀ record ∈ log, ¬ record.IsReduction) : applications operator log = 0 := by
  have hnone : log.filterMap Record.operator? = [] := by
    rw [List.filterMap_eq_nil_iff]
    intro record hrecord
    cases record with
    | reduced other states => exact absurd ⟨other, states, rfl⟩ (h _ hrecord)
    | compiled | built | simulated => rfl
  rw [applications, hnone, List.count_nil]

/-- Whatever stands before a level in the list ends with the groups in that level. -/
def GroupsFirst (levels : List (Tree .choice)) : Prop :=
  ∀ before level after, levels = before ++ level :: after → level.groups <:+ before

namespace GroupsFirst

variable {first second : List (Tree .choice)}

theorem append (h : GroupsFirst first) (k : GroupsFirst second) : GroupsFirst (first ++ second) := by
  intro before level after heq
  rcases List.append_eq_append_iff.1 heq with ⟨rest, rfl, hsecond⟩ | ⟨rest, hfirst, hrest⟩
  · exact (k rest level after hsecond).trans (List.suffix_append first rest)
  · cases rest with
    | nil =>
      -- the level is the first one of the second list, and has no groups in it
      have hnone := k [] level after hrest.symm
      rw [List.suffix_nil] at hnone
      simp [hnone]
    | cons other rest =>
      obtain ⟨rfl, -⟩ := List.cons.inj hrest
      exact h before level rest hfirst

theorem concat_level (level : Tree .choice) (h : GroupsFirst level.groups) :
    GroupsFirst (level.groups ++ [level]) := by
  intro before other after heq
  rcases List.eq_nil_or_concat after with rfl | ⟨rest, last, rfl⟩
  · obtain ⟨rfl, hlast⟩ := List.append_inj' heq rfl
    obtain rfl := List.singleton_inj.1 hlast
    exact List.suffix_refl _
  · have hinit : level.groups ++ [level] = (before ++ other :: rest) ++ [last] := by simp [heq]
    obtain ⟨hgroups, -⟩ := List.append_inj' hinit rfl
    exact h before other rest hgroups

end GroupsFirst

namespace Tree

theorem groupsFirst_groups {p : Phrase} (t : Tree p) : GroupsFirst t.groups := by
  have hnone : GroupsFirst [] := by
    intro before level after h
    simp at h
  induction t with
  | operand => exact hnone
  | group inner ih => exact .concat_level inner ih
  | once item ih | star item ih | plus item ih | final item ih | only item ih => exact ih
  | followed item rest ihi ihr | either item rest ihi ihr => exact ihi.append ihr

theorem groupsFirst_levels (t : Tree .choice) : GroupsFirst t.levels :=
  .concat_level t t.groupsFirst_groups

/-- Each bar of a text stands on one level, the outermost one or that of a group. -/
theorem count_bars {p : Phrase} (t : Tree p) : t.text.count '|' =
    (t.groups.map fun level => level.operators.count .union).sum + t.operators.count .union := by
  induction t with
  | operand c hc =>
    have hbar := isOperand_ne hc (d := '|') rfl
    simp [text, groups, operators, hbar]
  | group inner ih => simp [text, groups, operators, ih]
  | once item ih | star item ih | plus item ih | final item ih | only item ih =>
    simpa [text, groups, operators] using ih
  | followed item rest ihi ihr =>
    simp only [text, groups, operators, List.count_append, List.map_append, List.sum_append, ihi, ihr,
      List.count_cons_of_ne, ne_eq, reduceCtorEq, not_false_eq_true]
    omega
  | either item rest ihi ihr =>
    simp only [text, groups, operators, List.count_append, List.map_append, List.sum_append, ihi, ihr,
      List.count_cons_self]
    omega

theorem count_union_sequence (t : Tree .sequence) : t.operators.count .union = 0 := by
  obtain ⟨first, rest, -, -, hoperators⟩ := t.factors_sequence
  simp [hoperators, List.count_replicate]

/-- A bar waits between any two alternatives of a level, and nowhere else on it. -/
theorem count_union_choice : (t : Tree .choice) → t.operators.count .union = t.parts.length - 1
  | only item => by simp [operators, parts, count_union_sequence]
  | either item rest => by
    have hpos := List.length_pos_of_ne_nil rest.parts_choice_ne_nil
    simp only [operators, parts, List.count_append, List.count_cons_self, List.length_cons,
      count_union_sequence, count_union_choice rest]
    omega

theorem applications_reductions (t : Tree .choice) :
    applications .concat t.reductions = t.lastFactors.length - 1 ∧
      applications .union t.reductions = t.parts.length - 1 := by
  have operators (operator other : Operator) (states : List Automaton → Nat)
      (ends : List (List Automaton)) :
      applications operator (ends.map fun factors => .reduced other (states factors))
        = if other = operator then ends.length else 0 := by
    simp [applications, List.filterMap_map, Function.comp_def, Record.operator?, List.count_replicate]
  simp [reductions, applications_append, operators, length_longEnds]

theorem applications_levels (operator : Operator) (levels : List (Tree .choice)) :
    applications operator (levels.flatMap reductions)
      = (levels.map fun level => applications operator level.reductions).sum := by
  induction levels with
  | nil => rfl
  | cons level levels ih => simp [applications_append, ih]

/-- The unions that the levels record are the bars of the text. -/
theorem sum_alternatives (t : Tree .choice) :
    (t.levels.map fun level => level.parts.length - 1).sum = t.text.count '|' := by
  simp [levels, count_bars, count_union_choice]

end Tree

namespace Regex

variable {pattern : String} {r : Regex}

theorem log_build_ok (h : (build pattern).result = .ok r) : (build pattern).log =
    (compile pattern.toList).log ++ [.built pattern r.automaton.states] := by
  obtain ⟨hcheck, a, hcompile, rfl⟩ := build_eq_ok.1 h
  rw [build, Logged.log_bind_ok (Logged.mapError_eq_ok.2 hcheck),
    Logged.log_bind_ok (Logged.mapError_eq_ok.2 hcompile)]
  simp only [Logged.log_mapError, Logged.log_ofExcept, List.nil_append]
  congr 1

theorem log_build_inadmissible {fault : SyntaxError}
    (h : (build pattern).result = .error (.inadmissible fault)) : (build pattern).log = [] := by
  rcases build_eq_error.1 h with ⟨error, hcheck, -⟩ | ⟨-, error, -, hne⟩
  · rw [build, Logged.log_bind_error (Logged.mapError_eq_error.2 ⟨error, hcheck, rfl⟩)]
    simp
  · cases hne

theorem log_build_uncompilable {fault : CompileError}
    (h : (build pattern).result = .error (.uncompilable fault)) :
    ∀ record ∈ (build pattern).log, record.IsReduction := by
  rcases build_eq_error.1 h with ⟨error, -, hne⟩ | ⟨hcheck, error, hcompile, -⟩
  · cases hne
  · rw [build, Logged.log_bind_ok (Logged.mapError_eq_ok.2 hcheck),
      Logged.log_bind_error (Logged.mapError_eq_error.2 ⟨error, hcompile, rfl⟩)]
    simpa using Scan.isReduction_compile hcompile

/-- A query records the number of states that some walk reaches by reading the input. -/
theorem log_query {ε : Type} (hr : r.automaton.Proper) (input : String) :
    (r.query input : Logged ε Bool).log
      = [.simulated (r.automaton.reached input.toList).ncard (r.isMatch input)] := by
  rw [hr.ncard_reached]
  rfl

theorem result_queryAll {ε : Type} (r : Regex) (inputs : List String) :
    (r.queryAll inputs : Logged ε (List Bool)).result = .ok (inputs.map r.isMatch) := by
  induction inputs with
  | nil => rfl
  | cons input rest ih =>
    rw [queryAll, Logged.result_bind_of_ok (result_query r input), Logged.result_bind_of_ok ih]
    rfl

theorem log_queryAll {ε : Type} (hr : r.automaton.Proper) (inputs : List String) :
    (r.queryAll inputs : Logged ε (List Bool)).log = inputs.map fun input =>
      .simulated (r.automaton.reached input.toList).ncard (r.isMatch input) := by
  induction inputs with
  | nil => rfl
  | cons input rest ih =>
    rw [queryAll, Logged.log_bind_ok (result_query r input),
      Logged.log_bind_ok (result_queryAll r rest), log_query hr, ih]
    simp

/-- No input is read unless the pattern is built. -/
theorem answers_of_error {error : BuildError} (h : (build pattern).result = .error error)
    (inputs : List String) : (answers pattern inputs).result = .error error ∧
      (answers pattern inputs).log = (build pattern).log :=
  ⟨Logged.bind_eq_error.2 (.inl h), Logged.log_bind_error h⟩

theorem log_answers {t : Tree .choice} (ht : t.text = withoutSpaces pattern.toList)
    (h : (build pattern).result = .ok r) (inputs : List String) :
    (answers pattern inputs).log = t.levels.flatMap Tree.reductions
      ++ [.compiled pattern.toList r.automaton.states r.automaton.edges.length,
        .built pattern r.automaton.states]
      ++ inputs.map (fun input =>
        .simulated (r.automaton.reached input.toList).ncard (r.isMatch input)) := by
  obtain ⟨-, a, hcompile, rfl⟩ := build_eq_ok.1 h
  obtain rfl := Scan.eq_automaton_of_compile hcompile ht
  have hproper := (Scan.composed_compile hcompile).proper
  rw [answers, Logged.log_bind_ok h, log_build_ok h, log_queryAll hproper,
    Scan.log_compile_parse t ht hcompile]
  simp

/-- Operators are applied at the ends of levels only. -/
theorem applications_answers {t : Tree .choice} (ht : t.text = withoutSpaces pattern.toList)
    (h : (build pattern).result = .ok r) (inputs : List String) (operator : Operator) :
    applications operator (answers pattern inputs).log
      = (t.levels.map fun level => applications operator level.reductions).sum := by
  rw [log_answers ht h, List.append_assoc, applications_append, Tree.applications_levels,
    applications_eq_zero (by simp [Record.IsReduction]), Nat.add_zero]

end Regex

/-- The log of a pattern and its inputs. A pattern that is not admissible leaves no record, and one that
does not compile only records of operators that were applied. One that is built leaves what the ends of its
levels record, in the order in which they end, so that a level follows the groups in it; then a record of
the automaton, one of the pattern, and one for each input. Every bar is recorded, but of the concatenations
only those between the factors of the last alternative of a level. -/
theorem log_accounts (pattern : String) (inputs : List String) :
    let run := Regex.answers pattern inputs
    (∀ fault, (Regex.build pattern).result = .error (.inadmissible fault) →
      run.result = .error (.inadmissible fault) ∧ run.log = []) ∧
    (∀ fault, (Regex.build pattern).result = .error (.uncompilable fault) →
      run.result = .error (.uncompilable fault) ∧ ∀ record ∈ run.log, record.IsReduction) ∧
    ∀ r, (Regex.build pattern).result = .ok r →
      run.result = .ok (inputs.map r.isMatch) ∧
      (∃ t : Tree .choice, t.text = withoutSpaces pattern.toList) ∧
      ∀ t : Tree .choice, t.text = withoutSpaces pattern.toList →
        run.log = t.levels.flatMap Tree.reductions
          ++ [.compiled pattern.toList r.automaton.states r.automaton.edges.length,
            .built pattern r.automaton.states]
          ++ inputs.map (fun input =>
            .simulated (r.automaton.reached input.toList).ncard (r.isMatch input)) ∧
        GroupsFirst t.levels ∧
        applications .union run.log = pattern.toList.count '|' ∧
        applications .concat run.log
          = (t.levels.map fun level => level.lastFactors.length - 1).sum := by
  refine ⟨?_, ?_, ?_⟩
  · intro fault h
    obtain ⟨hresult, hlog⟩ := Regex.answers_of_error h inputs
    exact ⟨hresult, hlog.trans (Regex.log_build_inadmissible h)⟩
  · intro fault h
    obtain ⟨hresult, hlog⟩ := Regex.answers_of_error h inputs
    refine ⟨hresult, ?_⟩
    rw [hlog]
    exact Regex.log_build_uncompilable h
  · intro r h
    obtain ⟨-, a, hcompile, rfl⟩ := Regex.build_eq_ok.1 h
    refine ⟨Logged.bind_eq_ok.2 ⟨_, h, Regex.result_queryAll _ inputs⟩,
      Scan.derivable_of_compile hcompile, ?_⟩
    intro t ht
    have happlied := Regex.applications_answers ht h inputs
    refine ⟨Regex.log_answers ht h inputs, t.groupsFirst_levels, ?_, ?_⟩
    · have hbars : pattern.toList.count '|' = t.text.count '|' := by
        simp [ht, withoutSpaces, List.count_filter]
      simp only [happlied, Tree.applications_reductions, Tree.sum_alternatives, hbars]
    · simp only [happlied, Tree.applications_reductions]

/-- The group ends before the sequence it stands in. Of the alternatives in it only the last one has its
factors joined by themselves, and a pattern that lacks an operand has joined its factors before that is
noticed. -/
theorem log_accounts_group :
    (Regex.answers "a)" ["a"]).log = [] ∧
    (∀ record ∈ (Regex.answers "(ab)|" ["ab"]).log, record.IsReduction) ∧
    (Regex.answers "(a|bc)d" ["ad", "x"]).log =
      [.reduced .concat 3, .reduced .union 7, .reduced .concat 8, .compiled "(a|bc)d".toList 8 8,
        .built "(a|bc)d" 8, .simulated 1 true, .simulated 0 false] := by
  have hinadmissible := Regex.build_eq_error.2 <| .inl
    ⟨.unexpectedCloseParen 1, (by decide : checkAdmissible "a)".toList = _), rfl⟩
  have huncompilable := Regex.build_eq_error.2 <| .inr
    ⟨(by decide : checkAdmissible "(ab)|".toList = _), .missingOperand '|', (by decide +kernel), rfl⟩
  obtain ⟨silent, -, -⟩ := log_accounts "a)" ["a"]
  obtain ⟨-, reduced, -⟩ := log_accounts "(ab)|" ["ab"]
  obtain ⟨-, -, account⟩ := log_accounts "(a|bc)d" ["ad", "x"]
  refine ⟨(silent _ hinadmissible).2, (reduced _ huncompilable).2, ?_⟩
  let last : Tree .sequence :=
    .followed (.once (.operand 'b' (by decide))) (.final (.once (.operand 'c' (by decide))))
  let inner : Tree .choice := .either (.final (.once (.operand 'a' (by decide)))) (.only last)
  let whole : Tree .choice :=
    .only (.followed (.once (.group inner)) (.final (.once (.operand 'd' (by decide)))))
  have htext : whole.text = withoutSpaces "(a|bc)d".toList := by decide
  have hcompile : (compile "(a|bc)d".toList).result = .ok whole.automaton := by decide +kernel
  have hbuild := Regex.build_eq_ok.2
    ⟨(by decide : checkAdmissible "(a|bc)d".toList = _), _, hcompile, rfl⟩
  obtain ⟨-, -, logged⟩ := account _ hbuild
  have hproper := (Scan.composed_compile hcompile).proper
  have hlevels : whole.levels.flatMap Tree.reductions
      = [.reduced .concat 3, .reduced .union 7, .reduced .concat 8] := rfl
  have hmatched : Record.simulated (whole.automaton.simulation.run "ad".toList).length
      ((⟨"(a|bc)d", whole.automaton⟩ : Regex).isMatch "ad") = .simulated 1 true := by decide +kernel
  have hstuck : Record.simulated (whole.automaton.simulation.run "x".toList).length
      ((⟨"(a|bc)d", whole.automaton⟩ : Regex).isMatch "x") = .simulated 0 false := by decide +kernel
  rw [(logged whole htext).1, hlevels]
  simp only [hproper.ncard_reached, List.map_cons, List.map_nil, hmatched, hstuck]
  rfl

end RegexMachine
