import RegexMachine.Proofs.Expression.Admission
import RegexMachine.Proofs.Scan.Balance
import RegexMachine.Proofs.Scan.Spaces
import RegexMachine.Proofs.Scan.Translation
import RegexMachine.Regex

namespace RegexMachine

variable {expression : List Char}

theorem Scan.exists_readAll_of_parse {t : Tree .choice} (h : t.text = withoutSpaces expression) :
    ∃ s, (({} : Scan).readAll expression).result = .ok s ∧ s.finish.result = .ok t.automaton := by
  have hread := readAll_text t ({} : Scan)
  rw [h] at hread
  have hspaces : (({} : Scan).atPosition 0).readAll (withoutSpaces expression)
      = ({} : Scan).readAll (withoutSpaces expression) := rfl
  rw [← hspaces] at hread
  refine ⟨_, readAll_of_withoutSpaces hread, ?_⟩
  rw [finish_atPosition]
  refine finish_eq_ok.2 ⟨rfl, [], ?_⟩
  have hcollapse : (Level.collapse (t.operators ++ []) (t.operands ++ [])).result
      = (Level.collapse [] [t.automaton]).result := Level.result_collapse_tree t (by simp)
  exact hcollapse.trans (Level.collapse_nil_eq_ok.2 rfl)

/-- The scan translates an expression as recursion over its parse tree does, down to the numbers of
the states and the order of the edges. -/
theorem compile_parse (t : Tree .choice) (h : t.text = withoutSpaces expression) :
    (compile expression).result = .ok t.automaton :=
  Scan.compile_eq_ok.2 (Scan.exists_readAll_of_parse h)

theorem compile_parse_spaced : (compile "a b*|(c)".toList).result =
    .ok ((Automaton.concat (.literal 'a') (.star (.literal 'b'))).union (.literal 'c')) := by
  have htext : Tree.text (.either
      (.followed (.once (.operand 'a' (by decide)))
        (.final (.star (.once (.operand 'b' (by decide))))))
      (.only (.final (.once (.group (.only (.final (.once (.operand 'c' (by decide))))))))))
        = withoutSpaces "a b*|(c)".toList := by decide
  exact compile_parse _ htext

theorem Scan.derivable_of_compile {a : Automaton} (h : (compile expression).result = .ok a) :
    Derivable (withoutSpaces expression) := by
  obtain ⟨s, hread, hfinish⟩ := compile_eq_ok.1 h
  obtain ⟨-, hcompletes⟩ := completes_of_readAll hread hfinish (Nat.zero_le _)
  exact completes_iff_derivable.1 hcompletes

/-- What compiles is the automaton of each of its parses. -/
theorem Scan.eq_automaton_of_compile {a : Automaton} {t : Tree .choice}
    (h : (compile expression).result = .ok a) (ht : t.text = withoutSpaces expression) :
    a = t.automaton := by
  have hparse := compile_eq_ok.2 (exists_readAll_of_parse ht)
  rw [h] at hparse
  exact Except.ok.inj hparse

theorem Regex.build_eq_ok {pattern : String} {r : Regex} :
    (build pattern).result = .ok r ↔
      checkAdmissible pattern.toList = .ok () ∧
        ∃ a, (compile pattern.toList).result = .ok a ∧ r = ⟨pattern, a⟩ := by
  simp only [build, Logged.bind_eq_ok, Logged.mapError_eq_ok, Logged.result_ofExcept,
    Logged.result_emit, Logged.result_pure, Except.ok.injEq]
  apply Iff.intro
  · intro h
    obtain ⟨_, hcheck, a, ha, _, -, hr⟩ := h
    exact ⟨hcheck, a, ha, hr.symm⟩
  · intro h
    obtain ⟨hcheck, a, ha, hr⟩ := h
    exact ⟨(), hcheck, a, ha, (), trivial, hr.symm⟩

theorem Scan.exists_compile_iff :
    (∃ a, (compile expression).result = .ok a) ↔ Derivable (withoutSpaces expression) := by
  apply Iff.intro
  · intro h
    obtain ⟨a, ha⟩ := h
    exact derivable_of_compile ha
  · intro h
    obtain ⟨t, ht⟩ := h
    exact ⟨t.automaton, compile_eq_ok.2 (exists_readAll_of_parse ht)⟩

theorem Regex.exists_build_iff {pattern : String} :
    (∃ r, (build pattern).result = .ok r) ↔
      Derivable (withoutSpaces pattern.toList) ∧ pattern.toList.head? ≠ some ' ' := by
  apply Iff.intro
  · intro h
    obtain ⟨r, hr⟩ := h
    obtain ⟨hcheck, a, ha, -⟩ := build_eq_ok.1 hr
    exact ⟨Scan.derivable_of_compile ha, (head_of_checkAdmissible hcheck).2.2⟩
  · intro h
    obtain ⟨hderivable, hspace⟩ := h
    obtain ⟨a, ha⟩ := Scan.exists_compile_iff.2 hderivable
    have hcheck := checkAdmissible_of_derivable hderivable hspace
    exact ⟨⟨pattern, a⟩, build_eq_ok.2 ⟨hcheck, a, ha, rfl⟩⟩

/-- What compiles is what can be parsed. The admission check refuses nothing of it but a space in
front, and an operand taken from outside its group or alternative is always missed in the end. -/
theorem compiles_iff_derivable :
    (∀ expression, (∃ a, (compile expression).result = .ok a) ↔
      Derivable (withoutSpaces expression)) ∧
    (∀ pattern : String, (∃ r, (Regex.build pattern).result = .ok r) ↔
      Derivable (withoutSpaces pattern.toList) ∧ pattern.toList.head? ≠ some ' ') ∧
    (∀ expression a, (compile expression).result = .ok a → expression.head? ≠ some ' ' →
      checkAdmissible expression = .ok ()) ∧
    (∀ expression a, (compile expression).result = .ok a →
      Gapless (withoutSpaces expression)) := by
  refine ⟨?_, ?_, ?_, ?_⟩
  · intro expression
    exact Scan.exists_compile_iff
  · intro pattern
    exact Regex.exists_build_iff
  · intro expression a ha hspace
    have hderivable := Scan.derivable_of_compile ha
    exact checkAdmissible_of_derivable hderivable hspace
  · intro expression a ha
    have hderivable := Scan.derivable_of_compile ha
    exact gapless_of_derivable hderivable

theorem compiles_group_not_gap :
    (∃ a, (compile "b(a)".toList).result = .ok a ∧ checkAdmissible "b(a)".toList = .ok () ∧
      Gapless (withoutSpaces "b(a)".toList)) ∧
    ¬∃ a, (compile "b(|a)".toList).result = .ok a := by
  obtain ⟨compiles, -, admissible, gapless⟩ := compiles_iff_derivable
  have hgroup : Derivable (withoutSpaces "b(a)".toList) :=
    ⟨.only (.followed (.once (.operand 'b' (by decide)))
      (.final (.once (.group (.only (.final (.once (.operand 'a' (by decide))))))))), by decide⟩
  obtain ⟨a, ha⟩ := (compiles _).2 hgroup
  refine ⟨⟨a, ha, admissible _ a ha (by decide), gapless _ a ha⟩, ?_⟩
  intro h
  obtain ⟨a, ha⟩ := h
  have hgap : ¬Gapless (withoutSpaces "b(|a)".toList) := by decide
  exact hgap (gapless _ a ha)

end RegexMachine
