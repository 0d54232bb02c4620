import RegexMachine.Expression.Denotation
import RegexMachine.Proofs.Automaton.Sequence

namespace RegexMachine

/-- How the languages of the parts of a phrase make up its own. -/
def Phrase.combine : Phrase → List (Language Char) → Language Char
  | .choice => List.sum
  | _ => List.prod

namespace Tree

theorem parts_atom (t : Tree .atom) : ∃ a, t.parts = [a] := by
  cases t with
  | operand c _ => exact ⟨.literal c, rfl⟩
  | group inner => exact ⟨inner.automaton, rfl⟩

theorem parts_repetition : (t : Tree .repetition) → ∃ a, t.parts = [a]
  | once item => item.parts_atom
  | star item => by
    obtain ⟨a, ha⟩ := item.parts_repetition
    exact ⟨a.star, by simp [parts, ha]⟩
  | plus item => by
    obtain ⟨a, ha⟩ := item.parts_repetition
    exact ⟨a.plus, by simp [parts, ha]⟩

theorem parts_choice_ne_nil : (t : Tree .choice) → t.parts ≠ []
  | only _ => List.cons_ne_nil _ _
  | either _ _ => List.cons_ne_nil _ _

theorem automaton_only (item : Tree .sequence) : (only item).automaton = .sequence item.parts := rfl

theorem automaton_either (item : Tree .sequence) (rest : Tree .choice) :
    (either item rest).automaton = (Automaton.sequence item.parts).union rest.automaton := by
  obtain ⟨second, others, hrest⟩ := List.exists_cons_of_ne_nil rest.parts_choice_ne_nil
  rw [automaton, automaton, hrest]
  change Automaton.choice (.sequence item.parts :: rest.parts) = _
  rw [hrest]
  rfl

theorem proper_parts {p : Phrase} (t : Tree p) : ∀ a ∈ t.parts, a.Proper := by
  induction t with
  | operand c _ => simp [parts, Automaton.proper_literal]
  | group inner ih => simpa [parts] using Automaton.proper_choice ih
  | once item ih => exact ih
  | star item ih => simpa [parts] using fun a ha => Automaton.proper_star (ih a ha)
  | plus item ih => simpa [parts] using fun a ha => Automaton.proper_plus (ih a ha)
  | final item ih => exact ih
  | followed item rest ihi ihr =>
    intro a ha
    rcases List.mem_append.1 ha with ha | ha
    · exact ihi a ha
    · exact ihr a ha
  | only item ih => simpa [parts] using Automaton.proper_sequence ih
  | either item rest ihi ihr =>
    exact List.forall_mem_cons.2 ⟨Automaton.proper_sequence ihi, ihr⟩

theorem proper_automaton (t : Tree .choice) : t.automaton.Proper :=
  Automaton.proper_choice t.proper_parts

theorem language_parts {p : Phrase} (t : Tree p) :
    p.combine (t.parts.map Automaton.language) = t.language := by
  induction t with
  | operand c _ => simp [Phrase.combine, parts, language, Automaton.language_literal]
  | group inner ih =>
    have hchoice := Automaton.language_choice inner.proper_parts inner.parts_choice_ne_nil
    simpa [Phrase.combine, parts, language, hchoice] using ih
  | once item ih => exact ih
  | star item ih =>
    obtain ⟨a, hparts⟩ := item.parts_repetition
    have hproper := item.proper_parts a (by simp [hparts])
    have ha : a.language = item.language := by simpa [Phrase.combine, hparts] using ih
    simp [Phrase.combine, parts, language, hparts, Automaton.language_star hproper, ha]
  | plus item ih =>
    obtain ⟨a, hparts⟩ := item.parts_repetition
    have hproper := item.proper_parts a (by simp [hparts])
    have ha : a.language = item.language := by simpa [Phrase.combine, hparts] using ih
    simp [Phrase.combine, parts, language, hparts, Automaton.language_plus hproper, ha]
  | final item ih => exact ih
  | followed item rest ihi ihr =>
    simp only [Phrase.combine] at ihi ihr
    simp only [Phrase.combine, parts, language, List.map_append, List.prod_append, ihi, ihr]
  | only item ih =>
    have hsequence := Automaton.language_sequence item.proper_parts
    simpa [Phrase.combine, parts, language, hsequence] using ih
  | either item rest ihi ihr =>
    have hsequence := Automaton.language_sequence item.proper_parts
    simp only [Phrase.combine] at ihi ihr
    simp only [Phrase.combine, parts, language, List.map_cons, List.sum_cons, hsequence, ihi, ihr]

theorem language_automaton (t : Tree .choice) : t.automaton.language = t.language := by
  rw [automaton, Automaton.language_choice t.proper_parts t.parts_choice_ne_nil]
  exact t.language_parts

end Tree

end RegexMachine
