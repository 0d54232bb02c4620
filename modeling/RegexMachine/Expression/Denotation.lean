import Mathlib.Computability.Language
import RegexMachine.Expression.Grammar

namespace RegexMachine

/-- The texts that a phrase matches. -/
def Tree.language : {p : Phrase} → Tree p → Language Char
  | _, .operand c _ => {[c]}
  | _, .group inner => inner.language
  | _, .once item => item.language
  | _, .star item => KStar.kstar item.language
  | _, .plus item => item.language * KStar.kstar item.language
  | _, .final item => item.language
  | _, .followed item rest => item.language * rest.language
  | _, .only item => item.language
  | _, .either item rest => item.language + rest.language

/-- The characters of an expression that mean something. -/
def withoutSpaces (expression : List Char) : List Char := expression.filter (· ≠ ' ')

theorem withoutSpaces_space {text : List Char} :
    withoutSpaces (' ' :: text) = withoutSpaces text := rfl

theorem withoutSpaces_cons {c : Char} {text : List Char} (hc : c ≠ ' ') :
    withoutSpaces (c :: text) = c :: withoutSpaces text := by
  simp [withoutSpaces, hc]

/-- The texts that an expression matches: those that match some parse of it. -/
def language (expression : List Char) : Language Char :=
  {w | ∃ t : Tree .choice, t.text = withoutSpaces expression ∧ w ∈ t.language}

end RegexMachine
