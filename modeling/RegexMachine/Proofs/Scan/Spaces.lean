import RegexMachine.Expression.Denotation
import RegexMachine.Proofs.Scan.Outcome

namespace RegexMachine

namespace CompileError

/-- The place that a fault names, if it names one. -/
def position? : CompileError → Option Nat
  | unbalancedParen position => some position
  | invalidChar _ position => some position
  | _ => none

/-- The same fault, with the place that it names moved. -/
def relocate (f : Nat → Nat) : CompileError → CompileError
  | unbalancedParen position => unbalancedParen (f position)
  | invalidChar c position => invalidChar c (f position)
  | error => error

theorem position?_relocate (f : Nat → Nat) (error : CompileError) :
    (error.relocate f).position? = error.position?.map f := by
  cases error <;> rfl

theorem relocate_id (error : CompileError) : error.relocate id = error := by
  cases error <;> rfl

theorem relocate_relocate (f g : Nat → Nat) (error : CompileError) :
    (error.relocate f).relocate g = error.relocate (g ∘ f) := by
  cases error <;> rfl

theorem mapError_relocate {α : Type} (f g : Nat → Nat) (x : Except CompileError α) :
    (x.mapError (·.relocate f)).mapError (·.relocate g) = x.mapError (·.relocate (g ∘ f)) := by
  cases x with
  | ok a => rfl
  | error error => exact congrArg Except.error (relocate_relocate f g error)

/-- It matters only where the place goes that the fault names. -/
theorem relocate_congr {f g : Nat → Nat} {error : CompileError}
    (h : ∀ position, error.position? = some position → f position = g position) :
    error.relocate f = error.relocate g := by
  cases error with
  | unbalancedParen position => exact congrArg unbalancedParen (h position rfl)
  | invalidChar c position => exact congrArg (invalidChar c) (h position rfl)
  | unclosedParen => rfl
  | missingOperand => rfl
  | emptyExpression => rfl

theorem relocate_eq_self {f : Nat → Nat} {error : CompileError}
    (h : ∀ position, error.position? = some position → f position = position) :
    error.relocate f = error :=
  (relocate_congr h).trans error.relocate_id

end CompileError

namespace Scan

/-- The same scan at another position. -/
def atPosition (s : Scan) (n : Nat) : Scan := { s with position := n }

variable {s t : Scan} {c : Char} {error : CompileError}

theorem step_atPosition (h : Step s c t) (n : Nat) :
    Step (s.atPosition n) c (t.atPosition (n + 1)) := by
  cases h with
  | space => exact .space
  | star top => exact .star top
  | plus top => exact .plus top
  | opening => exact .opening
  | closing inside collapsed => exact .closing inside collapsed
  | bar => exact .bar
  | operand hc => exact .operand hc

/-- Where a scan stops it stops at any position, and names the position where it is. -/
theorem fault_atPosition (h : Fault s c error) (f : Nat → Nat) :
    Fault (s.atPosition (f s.position)) c (error.relocate f) := by
  cases h with
  | star bare => exact .star bare
  | plus bare => exact .plus bare
  | unbalanced outside => exact .unbalanced outside
  | shortage inside failed =>
    obtain ⟨operator, rfl⟩ := Level.collapse_eq_error failed
    exact .shortage inside failed
  | foreign hoperand hspecial => exact .foreign hoperand hspecial

theorem position_fault {position : Nat} (h : Fault s c error)
    (hposition : error.position? = some position) : position = s.position := by
  cases h with
  | star => cases hposition
  | plus => cases hposition
  | unbalanced => exact (Option.some.inj hposition).symm
  | shortage _ failed =>
    obtain ⟨operator, rfl⟩ := Level.collapse_eq_error failed
    cases hposition
  | foreign => exact (Option.some.inj hposition).symm

theorem finish_atPosition (s : Scan) (n : Nat) : (s.atPosition n).finish = s.finish := rfl

/-- No fault at the end names a position. -/
theorem position_finish (h : s.finish.result = .error error) : error.position? = none := by
  rcases finish_eq_error.1 h with failed | ⟨_, -, ⟨-, rfl⟩ | ⟨-, -, rfl⟩⟩
  · obtain ⟨operator, rfl⟩ := Level.collapse_eq_error failed
    rfl
  · rfl
  · rfl

/-- A fault names a position within the text. -/
theorem position_outcome {text : List Char} {position : Nat} (h : s.outcome text = .error error)
    (hposition : error.position? = some position) :
    s.position ≤ position ∧ position < s.position + text.length := by
  induction text generalizing s with
  | nil =>
    rw [position_finish h] at hposition
    cases hposition
  | cons c text ih =>
    rw [List.length_cons]
    rcases s.step_or_fault c with ⟨next, hstep⟩ | ⟨fault, hfault⟩
    · rw [outcome_step hstep] at h
      have hnext := position_step hstep
      have hrest := ih h
      omega
    · rw [outcome_fault hfault, Except.error.injEq] at h
      subst h
      have hhere := position_fault hfault hposition
      omega

/-- A text that begins elsewhere comes to the same, its faults moved with it. -/
theorem outcome_atPosition (s : Scan) (text : List Char) (n : Nat) :
    (s.atPosition (s.position + n)).outcome text
      = (s.outcome text).mapError (·.relocate (· + n)) := by
  induction text generalizing s with
  | nil =>
    rw [outcome_nil, outcome_nil, finish_atPosition]
    cases hfinish : s.finish.result with
    | ok a => rfl
    | error error =>
      have hself : error.relocate (· + n) = error := by
        apply CompileError.relocate_eq_self
        simp [position_finish hfinish]
      exact congrArg Except.error hself.symm
  | cons c text ih =>
    rcases s.step_or_fault c with ⟨next, hstep⟩ | ⟨error, hfault⟩
    · have hmoved := step_atPosition hstep (s.position + n)
      have hposition : s.position + n + 1 = next.position + n := by
        rw [position_step hstep]
        omega
      rw [outcome_step hstep, outcome_step hmoved, hposition, ih next]
    · have hmoved := fault_atPosition hfault (· + n)
      rw [outcome_fault hfault, outcome_fault hmoved]
      rfl

theorem readAll_of_withoutSpaces {text : List Char} {n : Nat}
    (h : ((s.atPosition n).readAll (withoutSpaces text)).result = .ok t) :
    (s.readAll text).result = .ok (t.atPosition (s.position + text.length)) := by
  induction text generalizing s n with
  | nil =>
    obtain rfl := readAll_nil_eq_ok.1 h
    rfl
  | cons c text ih =>
    have hlength : s.position + (c :: text).length = s.position + 1 + text.length := by
      rw [List.length_cons]
      omega
    rw [hlength]
    by_cases hc : c = ' '
    · subst hc
      rw [withoutSpaces_space] at h
      exact readAll_cons_eq_ok.2 ⟨_, .space, ih (s := s.atPosition (s.position + 1)) h⟩
    · rw [withoutSpaces_cons hc] at h
      obtain ⟨next, hstep, hrest⟩ := readAll_cons_eq_ok.1 h
      have hnext := step_atPosition hstep s.position
      exact readAll_cons_eq_ok.2 ⟨_, hnext, ih (s := next.atPosition (s.position + 1)) hrest⟩

end Scan

end RegexMachine
