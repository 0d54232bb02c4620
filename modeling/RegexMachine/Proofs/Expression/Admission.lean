import Mathlib.Data.List.Chain
import RegexMachine.Expression.Denotation
import RegexMachine.Expression.SyntaxError
import RegexMachine.Proofs.Expression.Completion

namespace RegexMachine

variable {text : List Char}

namespace SyntaxError

theorem inside_other {c : Char} (position depth : Nat) (hopen : c ≠ '(') (hclose : c ≠ ')')
    (hc : (isOperand c || isSpecial c) = true) :
    inside position depth (c :: text) = inside (position + 1) depth text := by
  simp [inside, hopen, hclose, hc]

theorem inside_opening (position depth : Nat) :
    inside position depth ('(' :: text) = inside (position + 1) (depth + 1) text := by
  simp only [inside, if_true]

theorem inside_closing (position depth : Nat) :
    inside position (depth + 1) (')' :: text) = inside (position + 1) depth text := by
  have hne : ')' ≠ '(' := by decide
  simp only [inside, if_neg hne, if_true]

theorem inside_unbalanced (position : Nat) :
    inside position 0 (')' :: text) = .error (unexpectedCloseParen position) := by
  have hne : ')' ≠ '(' := by decide
  simp only [inside, if_neg hne, if_true]

theorem inside_foreign {c : Char} (position depth : Nat) (hoperand : isOperand c = false)
    (hspecial : isSpecial c = false) :
    inside position depth (c :: text) = .error (invalidChar c position) := by
  have hopen : c ≠ '(' := by
    intro hc
    rw [hc] at hspecial
    cases hspecial
  have hclose : c ≠ ')' := by
    intro hc
    rw [hc] at hspecial
    cases hspecial
  simp [inside, hopen, hclose, hoperand, hspecial]

/-- What completes an expression closes exactly the groups that are open. -/
theorem inside_of_completes {joins : Bool} {depth : Nat}
    (h : Completes joins depth (withoutSpaces text)) (position : Nat) :
    inside position depth text = .ok () := by
  induction text generalizing joins depth position with
  | nil =>
    have hnil : withoutSpaces [] = [] := rfl
    rw [hnil] at h
    cases h
    simp [inside]
  | cons c text ih =>
    by_cases hspace : c = ' '
    · subst hspace
      rw [withoutSpaces_space] at h
      rw [inside_other position depth (by decide) (by decide) (by decide)]
      exact ih h (position + 1)
    · rw [withoutSpaces_cons hspace] at h
      cases h with
      | operand hc h =>
        rw [inside_other position depth (isOperand_ne hc (by decide)) (isOperand_ne hc (by decide))
          (by simp [hc])]
        exact ih h (position + 1)
      | opening h =>
        rw [inside_opening]
        exact ih h (position + 1)
      | closing h =>
        rw [inside_closing]
        exact ih h (position + 1)
      | bar h =>
        rw [inside_other position depth (by decide) (by decide) (by decide)]
        exact ih h (position + 1)
      | star h =>
        rw [inside_other position depth (by decide) (by decide) (by decide)]
        exact ih h (position + 1)
      | plus h =>
        rw [inside_other position depth (by decide) (by decide) (by decide)]
        exact ih h (position + 1)

end SyntaxError

/-- Only a text that begins well is looked through for its first fault. -/
theorem checkAdmissible_of_head (hne : text ≠ []) (hstar : text.head? ≠ some '*')
    (hspace : text.head? ≠ some ' ') : checkAdmissible text = SyntaxError.inside 0 0 text := by
  cases text with
  | nil => exact absurd rfl hne
  | cons c rest =>
    have hnostar : c ≠ '*' := by simpa using hstar
    have hnospace : c ≠ ' ' := by simpa using hspace
    simp only [checkAdmissible, if_neg hnostar, if_neg hnospace]

theorem head_of_checkAdmissible (h : checkAdmissible text = .ok ()) :
    text ≠ [] ∧ text.head? ≠ some '*' ∧ text.head? ≠ some ' ' := by
  refine ⟨?_, ?_, ?_⟩
  · intro hnil
    subst hnil
    cases h
  · intro hstar
    obtain ⟨rest, rfl⟩ := List.head?_eq_some_iff.1 hstar
    cases h
  · intro hspace
    obtain ⟨rest, rfl⟩ := List.head?_eq_some_iff.1 hspace
    cases h

theorem checkAdmissible_of_derivable (h : Derivable (withoutSpaces text))
    (hspace : text.head? ≠ some ' ') : checkAdmissible text = .ok () := by
  have hcompletes := completes_iff_derivable.2 h
  have hne : text ≠ [] := by
    intro hnil
    subst hnil
    cases hcompletes
  have hstar : text.head? ≠ some '*' := by
    intro hstar
    obtain ⟨rest, rfl⟩ := List.head?_eq_some_iff.1 hstar
    rw [withoutSpaces_cons (by decide)] at hcompletes
    cases hcompletes with
    | operand hc _ => exact isOperand_ne hc (by decide) rfl
  rw [checkAdmissible_of_head hne hstar hspace]
  exact SyntaxError.inside_of_completes hcompletes 0

/-- Behind an opening parenthesis and behind a bar an operand must come. -/
def Fits (left right : Char) : Prop := left = '(' ∨ left = '|' → ¬needsOperand right

/-- No place for an operand is left empty, the text seen as the inside of a group. -/
def Gapless (text : List Char) : Prop := ('(' :: text ++ [')']).IsChain Fits

instance : DecidableRel Fits := fun left right =>
  inferInstanceAs (Decidable (left = '(' ∨ left = '|' → ¬needsOperand right))

instance (text : List Char) : Decidable (Gapless text) :=
  inferInstanceAs (Decidable (List.IsChain Fits _))

theorem gapless_of_completes {joins : Bool} {depth : Nat} (h : Completes joins depth text)
    {last : Char} (hlast : joins = true → ¬(last = '(' ∨ last = '|')) :
    (last :: text ++ [')']).IsChain Fits := by
  induction h generalizing last with
  | done => exact List.isChain_pair.2 fun h => absurd h (hlast rfl)
  | operand hc _ ih =>
    refine List.isChain_cons_cons.2 ⟨fun _ => not_needsOperand hc, ih ?_⟩
    intro _ h
    rcases h with h | h
    all_goals exact isOperand_ne hc (by decide) h
  | opening _ ih =>
    have hopening : ¬needsOperand '(' := by simp [needsOperand]
    exact List.isChain_cons_cons.2 ⟨fun _ => hopening, ih (by simp)⟩
  | closing _ ih => exact List.isChain_cons_cons.2 ⟨fun h => absurd h (hlast rfl), ih (by simp)⟩
  | bar _ ih => exact List.isChain_cons_cons.2 ⟨fun h => absurd h (hlast rfl), ih (by simp)⟩
  | star _ ih => exact List.isChain_cons_cons.2 ⟨fun h => absurd h (hlast rfl), ih (by simp)⟩
  | plus _ ih => exact List.isChain_cons_cons.2 ⟨fun h => absurd h (hlast rfl), ih (by simp)⟩

theorem gapless_of_derivable (h : Derivable text) : Gapless text :=
  gapless_of_completes (completes_iff_derivable.2 h) nofun

end RegexMachine
