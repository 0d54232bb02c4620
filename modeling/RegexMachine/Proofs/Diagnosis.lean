import RegexMachine.Proofs.Expression.Admission
import RegexMachine.Proofs.Scan.Outcome
import RegexMachine.Regex

namespace RegexMachine

/-- The verdicts of the admission check and of the scan that can meet on one text. -/
inductive Agrees : Except SyntaxError Unit → Except CompileError Automaton → Prop
  | compiled (a : Automaton) : Agrees (.ok ()) (.ok a)
  | empty : Agrees (.ok ()) (.error .emptyExpression)
  | shortage (checked : Except SyntaxError Unit) (operator : Char) :
      Agrees checked (.error (.missingOperand operator))
  | foreign (c : Char) (position : Nat) :
      Agrees (.error (.invalidChar c position)) (.error (.invalidChar c position))
  | unbalanced (position : Nat) :
      Agrees (.error (.unexpectedCloseParen position)) (.error (.unbalancedParen position))
  | unclosed : Agrees (.error .unclosedParen) (.error .unclosedParen)

namespace Scan

open SyntaxError

variable {s t : Scan} {c : Char} {error : CompileError} {expression : List Char}

/-- What the scan reads, the check passes over with the same groups open. -/
theorem inside_step (h : Step s c t) (text : List Char) :
    inside s.position s.depth (c :: text) = inside t.position t.depth text := by
  rw [position_step h]
  cases h with
  | space => exact inside_other _ _ (by decide) (by decide) (by decide)
  | star => exact inside_other _ _ (by decide) (by decide) (by decide)
  | plus => exact inside_other _ _ (by decide) (by decide) (by decide)
  | opening => exact inside_opening _ _
  | closing outside =>
    rw [depth, outside]
    exact inside_closing _ _
  | bar => exact inside_other _ _ (by decide) (by decide) (by decide)
  | operand hc =>
    have hopen : c ≠ '(' := isOperand_ne hc (by decide)
    have hclose : c ≠ ')' := isOperand_ne hc (by decide)
    exact inside_other _ _ hopen hclose (by simp [hc])

/-- Where the scan stops, the check stops for the same reason, unless an operand is missing. -/
theorem agrees_fault (h : Fault s c error) (text : List Char) :
    Agrees (inside s.position s.depth (c :: text)) (.error error) := by
  cases h with
  | star => exact .shortage _ _
  | plus => exact .shortage _ _
  | unbalanced outside =>
    rw [depth, outside, List.length_nil, inside_unbalanced]
    exact .unbalanced _
  | shortage _ failed =>
    obtain ⟨operator, rfl⟩ := Level.collapse_eq_error failed
    exact .shortage _ _
  | foreign hoperand hspecial =>
    rw [inside_foreign _ _ hoperand hspecial]
    exact .foreign _ _

theorem agrees_finish (s : Scan) : Agrees (inside s.position s.depth []) s.finish.result := by
  rw [inside, depth]
  cases hfinish : s.finish.result with
  | ok a =>
    rw [(finish_eq_ok.1 hfinish).1]
    exact .compiled a
  | error error =>
    rcases finish_eq_error.1 hfinish with failed | ⟨_, -, ⟨hopen, rfl⟩ | ⟨hclosed, -, rfl⟩⟩
    · obtain ⟨operator, rfl⟩ := Level.collapse_eq_error failed
      exact .shortage _ _
    · rw [if_neg (by simpa using hopen)]
      exact .unclosed
    · rw [hclosed]
      exact .empty

/-- The check of the rest begins where the scan is, with as many groups open as it has. -/
theorem agrees_outcome (s : Scan) (text : List Char) :
    Agrees (inside s.position s.depth text) (s.outcome text) := by
  induction text generalizing s with
  | nil => exact s.agrees_finish
  | cons c text ih =>
    rcases s.step_or_fault c with ⟨next, hstep⟩ | ⟨error, hfault⟩
    · rw [outcome_step hstep, inside_step hstep]
      exact ih next
    · rw [outcome_fault hfault]
      exact agrees_fault hfault text

end Scan

theorem agrees_compile {text : List Char} (hne : text ≠ []) (hstar : text.head? ≠ some '*')
    (hspace : text.head? ≠ some ' ') : Agrees (checkAdmissible text) (compile text).result := by
  rw [checkAdmissible_of_head hne hstar hspace, Scan.result_compile]
  exact Scan.agrees_outcome {} text

theorem Regex.build_eq_error {pattern : String} {error : BuildError} :
    (build pattern).result = .error error ↔
      (∃ fault, checkAdmissible pattern.toList = .error fault ∧ error = .inadmissible fault) ∨
      checkAdmissible pattern.toList = .ok () ∧
        ∃ fault, (compile pattern.toList).result = .error fault ∧ error = .uncompilable fault := by
  simp only [build, Logged.bind_eq_error, Logged.mapError_eq_error, Logged.mapError_eq_ok,
    Logged.result_ofExcept, Logged.result_emit, Logged.result_pure]
  apply Iff.intro
  · intro h
    rcases h with ⟨fault, hcheck, rfl⟩ | ⟨_, hcheck, ⟨fault, hcompile, rfl⟩ | ⟨_, -, h⟩⟩
    · exact .inl ⟨fault, hcheck, rfl⟩
    · exact .inr ⟨hcheck, fault, hcompile, rfl⟩
    · rcases h with h | ⟨_, -, h⟩
      · cases h
      · cases h
  · intro h
    rcases h with ⟨fault, hcheck, rfl⟩ | ⟨hcheck, fault, hcompile, rfl⟩
    · exact .inl ⟨fault, hcheck, rfl⟩
    · exact .inr ⟨(), hcheck, .inl ⟨fault, hcompile, rfl⟩⟩

/-- The scan stopped, or could not end, for want of an operand. -/
def LacksOperand (compiled : Except CompileError Automaton) : Prop :=
  ∃ operator, compiled = .error (.missingOperand operator)

/-- On a text that begins neither with a star nor with a space, the scan finds the fault that the
check finds, at the same place, unless it lacks an operand before. What the scan finds, other than
the want of operands, the check finds too, and so a pattern that was checked can only fail to
compile for want of operands. -/
theorem diagnoses_agree :
    (∀ text : List Char, text ≠ [] → text.head? ≠ some '*' → text.head? ≠ some ' ' →
      (checkAdmissible text = .ok () →
        (∃ a, (compile text).result = .ok a) ∨ LacksOperand (compile text).result ∨
          (compile text).result = .error .emptyExpression) ∧
      (∀ c position, checkAdmissible text = .error (.invalidChar c position) →
        (compile text).result = .error (.invalidChar c position) ∨
          LacksOperand (compile text).result) ∧
      (∀ position, checkAdmissible text = .error (.unexpectedCloseParen position) →
        (compile text).result = .error (.unbalancedParen position) ∨
          LacksOperand (compile text).result) ∧
      (checkAdmissible text = .error .unclosedParen →
        (compile text).result = .error .unclosedParen ∨ LacksOperand (compile text).result) ∧
      (∀ c position, (compile text).result = .error (.invalidChar c position) →
        checkAdmissible text = .error (.invalidChar c position)) ∧
      (∀ position, (compile text).result = .error (.unbalancedParen position) →
        checkAdmissible text = .error (.unexpectedCloseParen position)) ∧
      ((compile text).result = .error .unclosedParen →
        checkAdmissible text = .error .unclosedParen)) ∧
    ∀ pattern fault, (Regex.build pattern).result = .error (.uncompilable fault) →
      (∃ operator, fault = .missingOperand operator) ∨ fault = .emptyExpression := by
  apply And.intro
  · intro text hne hstar hspace
    have hagrees := agrees_compile hne hstar hspace
    generalize checkAdmissible text = checked at hagrees ⊢
    generalize (compile text).result = compiled at hagrees ⊢
    cases hagrees with
    | compiled a => simp
    | empty => simp
    | shortage _ operator => simp [LacksOperand]
    | foreign c position => simp
    | unbalanced position => simp
    | unclosed => simp
  · intro pattern fault h
    obtain ⟨_, -, hne⟩ | ⟨hcheck, other, hcompile, heq⟩ := Regex.build_eq_error.1 h
    · cases hne
    · cases heq
      obtain ⟨hne, hstar, hspace⟩ := head_of_checkAdmissible hcheck
      have hagrees := agrees_compile hne hstar hspace
      rw [hcheck, hcompile] at hagrees
      cases hagrees with
      | empty => exact .inr rfl
      | shortage _ operator => exact .inl ⟨operator, rfl⟩

theorem diagnoses_foreign_in_group :
    (checkAdmissible "a(b?".toList = .error (.invalidChar '?' 3) ∧
      ((compile "a(b?".toList).result = .error (.invalidChar '?' 3) ∨
        LacksOperand (compile "a(b?".toList).result)) ∧
    ∃ fault, (Regex.build "()").result = .error (.uncompilable fault) ∧
      ((∃ operator, fault = .missingOperand operator) ∨ fault = .emptyExpression) := by
  obtain ⟨agree, built⟩ := diagnoses_agree
  have hcheck : checkAdmissible "a(b?".toList = .error (.invalidChar '?' 3) := by decide
  have hcompile : (compile "()".toList).result = .error .emptyExpression := by cbv
  have hbuild := Regex.build_eq_error.2 (.inr ⟨by decide, _, hcompile, rfl⟩)
  obtain ⟨-, foreign, -⟩ := agree "a(b?".toList (by decide) (by decide) (by decide)
  exact ⟨⟨hcheck, foreign '?' 3 hcheck⟩, _, hbuild, built _ _ hbuild⟩

end RegexMachine
