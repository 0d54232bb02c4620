import RegexMachine.Proofs.Compilation
import RegexMachine.Proofs.Simulation.Run

namespace RegexMachine

variable {expression : List Char}

/-- All parses of an expression have the same language, since the scan makes the same automaton
of them. -/
theorem language_parse (t : Tree .choice) (h : t.text = withoutSpaces expression) :
    language expression = t.language := by
  ext w
  apply Iff.intro
  · intro hw
    obtain ⟨other, hother, hw⟩ := hw
    have hcompile := Scan.compile_eq_ok.2 (Scan.exists_readAll_of_parse hother)
    have hautomaton := Scan.eq_automaton_of_compile hcompile h
    rw [← t.language_automaton, ← hautomaton, other.language_automaton]
    exact hw
  · intro hw
    exact ⟨t, h, hw⟩

theorem accepts_of_compile {a : Automaton} (h : (compile expression).result = .ok a)
    (w : List Char) : a.accepts w = true ↔ w ∈ language expression := by
  obtain ⟨t, ht⟩ := Scan.derivable_of_compile h
  rw [Scan.eq_automaton_of_compile h ht, t.proper_automaton.accepts_iff_spells,
    language_parse t ht, ← t.language_automaton]
  exact Iff.rfl

/-- An automaton that was compiled, and a pattern that was built, accepts exactly the texts in the
language of the expression. -/
theorem matches_iff_mem_language :
    (∀ expression a, (compile expression).result = .ok a →
      ∀ w, a.accepts w = true ↔ w ∈ language expression) ∧
    (∀ pattern r, (Regex.build pattern).result = .ok r →
      ∀ input : String, r.isMatch input = true ↔ input.toList ∈ language pattern.toList) := by
  apply And.intro
  · intro expression a h
    exact accepts_of_compile h
  · intro pattern r h input
    obtain ⟨-, a, ha, hr⟩ := Regex.build_eq_ok.1 h
    subst hr
    exact accepts_of_compile ha input.toList

theorem matches_spaced_alternative :
    (∃ a, (compile "a b|c".toList).result = .ok a ∧ a.accepts "ab".toList = true) ∧
    ∃ r, (Regex.build "a b|c").result = .ok r ∧ r.isMatch "c" = true := by
  obtain ⟨compiled, built⟩ := matches_iff_mem_language
  have htext : Tree.text (.either
      (.followed (.once (.operand 'a' (by decide))) (.final (.once (.operand 'b' (by decide)))))
      (.only (.final (.once (.operand 'c' (by decide))))))
        = withoutSpaces "a b|c".toList := by decide
  have ha := Scan.compile_eq_ok.2 (Scan.exists_readAll_of_parse htext)
  have hr := Regex.build_eq_ok.2 ⟨by decide, _, ha, rfl⟩
  refine ⟨⟨_, ha, (compiled _ _ ha _).2 ?_⟩, ⟨_, hr, (built _ _ hr _).2 ?_⟩⟩
  · rw [language_parse _ htext]
    exact .inl ⟨['a'], rfl, ['b'], rfl, rfl⟩
  · rw [language_parse _ htext]
    exact .inr rfl

end RegexMachine
