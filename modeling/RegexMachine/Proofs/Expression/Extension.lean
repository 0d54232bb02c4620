import RegexMachine.Expression.Admissible
import RegexMachine.Proofs.Expression.Admission

namespace RegexMachine

/-- Nothing in the text must keep a longer text from being admissible. -/
structure Viable (text : List Char) : Prop where
  alphabet : ∀ c ∈ text, isOperand c = true ∨ isSpecial c = true
  closes : ∀ start, start <+: text → start.count ')' ≤ start.count '('

variable {text before after : List Char} {c : Char}

theorem viable_nil : Viable [] where
  alphabet := nofun
  closes := by
    intro start hstart
    rw [List.prefix_nil.1 hstart]
    exact Nat.le_refl _

theorem Viable.of_prefix (h : Viable text) (hbefore : before <+: text) : Viable before where
  alphabet c hc := h.alphabet c (hbefore.subset hc)
  closes start hstart := h.closes start (hstart.trans hbefore)

/-- One more character must be one of expressions, and if it closes a group, one must be open. -/
theorem viable_concat_iff :
    Viable (before ++ [c]) ↔ Viable before ∧ (isOperand c = true ∨ isSpecial c = true) ∧
      (c = ')' → before.count ')' < before.count '(') := by
  apply Iff.intro
  · intro h
    refine ⟨h.of_prefix (List.prefix_append _ _), h.alphabet c (by simp), ?_⟩
    rintro rfl
    have hwhole := h.closes _ (List.prefix_refl _)
    rw [List.count_append, List.count_append, List.count_singleton_self] at hwhole
    exact hwhole
  · intro h
    obtain ⟨hbefore, halphabet, hcloses⟩ := h
    refine ⟨?_, ?_⟩
    · intro d hd
      rcases List.mem_append.1 hd with hd | hd
      · exact hbefore.alphabet d hd
      · rwa [List.mem_singleton.1 hd]
    · intro start hstart
      rcases List.prefix_concat_iff.1 hstart with rfl | hstart
      · have hle := hbefore.closes _ (List.prefix_refl _)
        rw [List.count_append, List.count_append]
        by_cases hc : c = ')'
        · have hlt := hcloses hc
          simp [hc]
          omega
        · have hnone : [c].count ')' = 0 := by simp [hc]
          omega
      · exact hbefore.closes start hstart

/-- Closing what is open, and no more, keeps a text viable. -/
theorem Viable.close (h : Viable text) {n : Nat} (hn : text.count ')' + n ≤ text.count '(') :
    Viable (text ++ List.replicate n ')') := by
  induction n with
  | zero => simpa using h
  | succ n ih =>
    rw [List.replicate_succ', ← List.append_assoc]
    refine viable_concat_iff.2 ⟨ih (by omega), .inr rfl, fun _ => ?_⟩
    simp
    omega

/-- A viable text becomes admissible when its groups are closed and an operand follows. -/
theorem Viable.completion (h : Viable text) (hstar : text.head? ≠ some '*')
    (hspace : text.head? ≠ some ' ') :
    Admissible (text ++ List.replicate (text.count '(' - text.count ')') ')' ++ ['a']) := by
  have hle := h.closes _ (List.prefix_refl _)
  have hclosed := h.close (n := text.count '(' - text.count ')') (by omega)
  have hoperand : isOperand 'a' = true := by decide
  have hwhole := viable_concat_iff.2 ⟨hclosed, .inl hoperand, nofun⟩
  -- the operand is there for the empty text, which would still be empty without it
  have hhead (first : Char) (hfirst : text.head? ≠ some first) (hne : 'a' ≠ first) :
      (text ++ List.replicate (text.count '(' - text.count ')') ')' ++ ['a']).head? ≠ some first := by
    cases text with
    | nil => simpa using hne
    | cons => exact hfirst
  refine ⟨by simp, ?_, ?_, hwhole.alphabet, ?_, hwhole.closes⟩
  · exact hhead '*' hstar (by decide)
  · exact hhead ' ' hspace (by decide)
  · have hopen : ['a'].count '(' = 0 := rfl
    have hclose : ['a'].count ')' = 0 := rfl
    have hnone (n : Nat) : (List.replicate n ')').count '(' = 0 := by simp [List.count_replicate]
    simp only [List.count_append, List.count_replicate_self, hopen, hclose, hnone]
    omega

theorem extendable_iff_viable (hstar : text.head? ≠ some '*') (hspace : text.head? ≠ some ' ') :
    Extendable text ↔ Viable text := by
  apply Iff.intro
  · intro h
    obtain ⟨whole, hwhole, hprefix⟩ := h
    have hviable : Viable whole := ⟨hwhole.alphabet, hwhole.balanced.2⟩
    exact hviable.of_prefix hprefix
  · intro h
    refine ⟨_, h.completion hstar hspace, ?_⟩
    rw [List.append_assoc]
    exact List.prefix_append _ _

theorem extendable_take_iff (hstar : text.head? ≠ some '*') (hspace : text.head? ≠ some ' ')
    (position : Nat) : Extendable (text.take position) ↔ Viable (text.take position) := by
  cases position with
  | zero => exact extendable_iff_viable (by simp) (by simp)
  | succ position =>
    have hhead : (text.take (position + 1)).head? = text.head? := by cases text <;> rfl
    exact extendable_iff_viable (by rwa [hhead]) (by rwa [hhead])

/-- A text is viable, or it ceases to be at some character. -/
theorem viable_or_stops (text : List Char) :
    Viable text ∨ ∃ before c after, text = before ++ c :: after ∧ Viable before ∧
      ¬Viable (before ++ [c]) := by
  induction text using List.reverseRecOn with
  | nil => exact .inl viable_nil
  | append_singleton text d ih =>
    rcases ih with hviable | ⟨before, c, after, rfl, hbefore, hstop⟩
    · by_cases hd : Viable (text ++ [d])
      · exact .inl hd
      · exact .inr ⟨text, d, [], rfl, hviable, hd⟩
    · exact .inr ⟨before, c, after ++ [d], by simp, hbefore, hstop⟩

/-- What stops is a parenthesis that closes nothing, or a foreign character. -/
theorem kind_of_stop (hbefore : Viable before) (hstop : ¬Viable (before ++ [c])) :
    (c = ')' ∧ before.count '(' = before.count ')') ∨
      (isOperand c = false ∧ isSpecial c = false) := by
  rw [viable_concat_iff] at hstop
  have hle := hbefore.closes _ (List.prefix_refl _)
  by_cases hc : c = ')'
  · subst hc
    have hspecial : isSpecial ')' = true := rfl
    simp [hbefore, hspecial] at hstop
    exact .inl ⟨rfl, by omega⟩
  · simpa [hbefore, hc] using hstop

namespace SyntaxError

/-- The check passes over a viable text, and knows then how many groups are open. -/
theorem inside_of_viable (h : Viable before) (rest : List Char) :
    inside 0 0 (before ++ rest)
      = inside before.length (before.count '(' - before.count ')') rest := by
  induction before using List.reverseRecOn generalizing rest with
  | nil => rfl
  | append_singleton before c ih =>
    obtain ⟨hbefore, halphabet, hcloses⟩ := viable_concat_iff.1 h
    have hle := hbefore.closes _ (List.prefix_refl _)
    rw [List.append_assoc, ih hbefore, List.length_append, List.count_append, List.count_append]
    by_cases hopen : c = '('
    · subst hopen
      have hdepth : before.count '(' + ['('].count '(' - (before.count ')' + ['('].count ')')
          = before.count '(' - before.count ')' + 1 := by
        simp
        omega
      rw [hdepth]
      exact inside_opening _ _
    by_cases hclose : c = ')'
    · subst hclose
      have hlt := hcloses rfl
      have hdepth : before.count '(' - before.count ')'
          = before.count '(' + [')'].count '(' - (before.count ')' + [')'].count ')') + 1 := by
        simp
        omega
      rw [hdepth]
      exact inside_closing _ _
    · have hdepth : before.count '(' + [c].count '(' - (before.count ')' + [c].count ')')
          = before.count '(' - before.count ')' := by simp [hopen, hclose]
      rw [hdepth]
      exact inside_other _ _ hopen hclose (by simpa using halphabet)

theorem inside_viable (h : Viable text) :
    inside 0 0 text = if text.count '(' = text.count ')' then .ok () else .error unclosedParen := by
  have hle := h.closes _ (List.prefix_refl _)
  have hpass := inside_of_viable h []
  rw [List.append_nil, inside] at hpass
  rw [hpass]
  have hzero : text.count '(' - text.count ')' = 0 ↔ text.count '(' = text.count ')' := by omega
  simp only [hzero]

theorem inside_unbalanced_stop (hbefore : Viable before)
    (hclosed : before.count '(' = before.count ')') :
    inside 0 0 (before ++ ')' :: after) = .error (unexpectedCloseParen before.length) := by
  rw [inside_of_viable hbefore, hclosed, Nat.sub_self]
  exact inside_unbalanced _

theorem inside_foreign_stop (hbefore : Viable before) (hoperand : isOperand c = false)
    (hspecial : isSpecial c = false) :
    inside 0 0 (before ++ c :: after) = .error (invalidChar c before.length) := by
  rw [inside_of_viable hbefore]
  exact inside_foreign _ _ hoperand hspecial

end SyntaxError

theorem admissible_iff_viable : Admissible text ↔
    (text ≠ [] ∧ text.head? ≠ some '*' ∧ text.head? ≠ some ' ') ∧ Viable text ∧
      text.count '(' = text.count ')' := by
  apply Iff.intro
  · intro h
    exact ⟨⟨h.nonempty, h.no_leading_star, h.no_leading_space⟩, ⟨h.alphabet, h.balanced.2⟩,
      h.balanced.1⟩
  · intro h
    obtain ⟨⟨hne, hstar, hspace⟩, hviable, hclosed⟩ := h
    exact ⟨hne, hstar, hspace, hviable.alphabet, hclosed, hviable.closes⟩

/-- A viable text has no point of no return. -/
theorem Viable.not_pointOfNoReturn (h : Viable text) (hstar : text.head? ≠ some '*')
    (hspace : text.head? ≠ some ' ') (position : Nat) : ¬PointOfNoReturn text position := by
  intro hpoint
  have htake := h.of_prefix (List.take_prefix (position + 1) text)
  exact hpoint.2 ((extendable_take_iff hstar hspace _).2 htake)

/-- Any other text has one, where it ceases to be viable. -/
theorem pointOfNoReturn_iff_of_stop (hbefore : Viable before) (hstop : ¬Viable (before ++ [c]))
    (hstar : (before ++ c :: after).head? ≠ some '*')
    (hspace : (before ++ c :: after).head? ≠ some ' ') (position : Nat) :
    PointOfNoReturn (before ++ c :: after) position ↔ position = before.length := by
  have hstopped : before ++ [c] <+: before ++ c :: after := ⟨after, by simp⟩
  have hpassed : before <+: before ++ c :: after := List.prefix_append _ _
  have htake (n : Nat) : (before ++ c :: after).take n <+: before ++ c :: after :=
    List.take_prefix n _
  rw [PointOfNoReturn, extendable_take_iff hstar hspace, extendable_take_iff hstar hspace]
  apply Iff.intro
  · intro h
    obtain ⟨hviable, hnot⟩ := h
    rcases Nat.lt_trichotomy position before.length with hlt | heq | hgt
    · have hlength : ((before ++ c :: after).take (position + 1)).length ≤ before.length := by
        rw [List.length_take]
        omega
      have hprefix := List.prefix_of_prefix_length_le (htake _) hpassed hlength
      exact absurd (hbefore.of_prefix hprefix) hnot
    · exact heq
    · have hlength : (before ++ [c]).length ≤ ((before ++ c :: after).take position).length := by
        simp only [List.length_take, List.length_append, List.length_cons, List.length_nil]
        omega
      have hprefix := List.prefix_of_prefix_length_le hstopped (htake _) hlength
      exact absurd (hviable.of_prefix hprefix) hstop
  · rintro rfl
    have hlast : (before ++ c :: after).take (before.length + 1) = before ++ [c] := by
      simp [List.take_append]
    rw [List.take_left, hlast]
    exact ⟨hbefore, hstop⟩

theorem Admissible.extendable (h : Admissible text) : Extendable text :=
  ⟨text, h, List.prefix_refl _⟩

/-- The verdicts on a text that begins with neither a star nor a space, each with its grounds. -/
inductive Judged (text : List Char) : Except SyntaxError Unit → Prop
  | admissible (h : Admissible text) (on : ∀ n, ¬PointOfNoReturn text n) : Judged text (.ok ())
  | unclosed (hnot : ¬Admissible text) (h : Extendable text) (on : ∀ n, ¬PointOfNoReturn text n) :
      Judged text (.error .unclosedParen)
  | foreign {c : Char} {position : Nat} (hnot : ¬Extendable text)
      (here : ∀ n, PointOfNoReturn text n ↔ n = position) (hc : text[position]? = some c)
      (outside : isOperand c = false ∧ isSpecial c = false) :
      Judged text (.error (.invalidChar c position))
  | unbalanced {position : Nat} (hnot : ¬Extendable text)
      (here : ∀ n, PointOfNoReturn text n ↔ n = position) (hc : text[position]? = some ')') :
      Judged text (.error (.unexpectedCloseParen position))

theorem judged_checkAdmissible (hne : text ≠ []) (hstar : text.head? ≠ some '*')
    (hspace : text.head? ≠ some ' ') : Judged text (checkAdmissible text) := by
  rw [checkAdmissible_of_head hne hstar hspace]
  rcases viable_or_stops text with hviable | ⟨before, c, after, rfl, hbefore, hstop⟩
  · have hon := hviable.not_pointOfNoReturn hstar hspace
    rw [SyntaxError.inside_viable hviable]
    split_ifs with hclosed
    · exact .admissible (admissible_iff_viable.2 ⟨⟨hne, hstar, hspace⟩, hviable, hclosed⟩) hon
    · refine .unclosed ?_ ((extendable_iff_viable hstar hspace).2 hviable) hon
      intro h
      exact hclosed h.balanced.1
  · have hhere := pointOfNoReturn_iff_of_stop hbefore hstop hstar hspace
    have hc : (before ++ c :: after)[before.length]? = some c := by simp
    have hnot : ¬Extendable (before ++ c :: after) := by
      intro h
      have hviable := (extendable_iff_viable hstar hspace).1 h
      exact hstop (hviable.of_prefix ⟨after, by simp⟩)
    rcases kind_of_stop hbefore hstop with ⟨rfl, hclosed⟩ | ⟨hoperand, hspecial⟩
    · rw [SyntaxError.inside_unbalanced_stop hbefore hclosed]
      exact .unbalanced hnot hhere hc
    · rw [SyntaxError.inside_foreign_stop hbefore hoperand hspecial]
      exact .foreign hnot hhere hc ⟨hoperand, hspecial⟩

namespace Judged

variable {verdict : Except SyntaxError Unit} (h : Judged text verdict)

include h

theorem ok_iff : verdict = .ok () ↔ Admissible text := by
  cases h with
  | admissible h => simp [h]
  | unclosed hnot => simp [hnot]
  | foreign hnot => simpa using fun h => hnot (Admissible.extendable h)
  | unbalanced hnot => simpa using fun h => hnot (Admissible.extendable h)

theorem unclosedParen_iff :
    verdict = .error .unclosedParen ↔ ¬Admissible text ∧ Extendable text := by
  cases h with
  | admissible h => simp [h]
  | unclosed hnot h => simp [hnot, h]
  | foreign hnot => simp [hnot]
  | unbalanced hnot => simp [hnot]

theorem pointOfNoReturn_iff (position : Nat) : PointOfNoReturn text position ↔
    (∃ c, verdict = .error (.invalidChar c position)) ∨
      verdict = .error (.unexpectedCloseParen position) := by
  cases h with
  | admissible _ on => simp [on]
  | unclosed _ _ on => simp [on]
  | foreign _ here => simp [here, eq_comm]
  | unbalanced _ here => simp [here, eq_comm]

theorem invalidChar_iff (c : Char) (position : Nat) :
    verdict = .error (.invalidChar c position) ↔ PointOfNoReturn text position ∧
      text[position]? = some c ∧ isOperand c = false ∧ isSpecial c = false := by
  cases h with
  | admissible _ on => simp [on]
  | unclosed _ _ on => simp [on]
  | foreign _ here hd outside =>
    rw [here]
    apply Iff.intro
    · rintro ⟨⟩
      exact ⟨rfl, hd, outside⟩
    · rintro ⟨rfl, hc, -⟩
      rw [hd, Option.some.injEq] at hc
      rw [hc]
  | unbalanced _ here hclose =>
    rw [here]
    refine ⟨nofun, ?_⟩
    -- a parenthesis is not foreign
    rintro ⟨rfl, hc, -, hspecial⟩
    rw [hclose, Option.some.injEq] at hc
    rw [← hc] at hspecial
    cases hspecial

theorem unexpectedCloseParen_iff (position : Nat) :
    verdict = .error (.unexpectedCloseParen position) ↔
      PointOfNoReturn text position ∧ text[position]? = some ')' := by
  cases h with
  | admissible _ on => simp [on]
  | unclosed _ _ on => simp [on]
  | foreign _ here hc outside =>
    rw [here]
    refine ⟨nofun, ?_⟩
    rintro ⟨rfl, hclose⟩
    rw [hc, Option.some.injEq] at hclose
    rw [hclose] at outside
    cases outside.2
  | unbalanced _ here hclose =>
    rw [here]
    apply Iff.intro
    · rintro ⟨⟩
      exact ⟨rfl, hclose⟩
    · rintro ⟨rfl, -⟩
      rfl

end Judged

theorem checkAdmissible_eq_ok_iff : checkAdmissible text = .ok () ↔ Admissible text := by
  apply Iff.intro
  · intro h
    obtain ⟨hne, hstar, hspace⟩ := head_of_checkAdmissible h
    exact (judged_checkAdmissible hne hstar hspace).ok_iff.1 h
  · intro h
    exact (judged_checkAdmissible h.nonempty h.no_leading_star h.no_leading_space).ok_iff.2 h

/-- The check accepts the admissible texts and no others. In a text that begins with neither a star nor a
space it refuses the character at the point of no return, as foreign or as a parenthesis that closes
nothing. If there is no such point, then a text is refused for the groups that it leaves open. -/
theorem checkAdmissible_decides :
    (∀ text, checkAdmissible text = .ok () ↔ Admissible text) ∧
    ∀ text : List Char, text ≠ [] → text.head? ≠ some '*' → text.head? ≠ some ' ' →
      (∀ position, PointOfNoReturn text position ↔
        (∃ c, checkAdmissible text = .error (.invalidChar c position)) ∨
          checkAdmissible text = .error (.unexpectedCloseParen position)) ∧
      (∀ c position, checkAdmissible text = .error (.invalidChar c position) ↔
        PointOfNoReturn text position ∧ text[position]? = some c ∧
          isOperand c = false ∧ isSpecial c = false) ∧
      (∀ position, checkAdmissible text = .error (.unexpectedCloseParen position) ↔
        PointOfNoReturn text position ∧ text[position]? = some ')') ∧
      (checkAdmissible text = .error .unclosedParen ↔ ¬Admissible text ∧ Extendable text) := by
  apply And.intro
  · intro text
    exact checkAdmissible_eq_ok_iff
  · intro text hne hstar hspace
    have hjudged := judged_checkAdmissible hne hstar hspace
    exact ⟨hjudged.pointOfNoReturn_iff, hjudged.invalidChar_iff, hjudged.unexpectedCloseParen_iff,
      hjudged.unclosedParen_iff⟩

/-- The text may end inside a group, but not go on behind a parenthesis too many, whatever is opened
later. -/
theorem checkAdmissible_decides_unbalanced :
    Admissible "+(a b)".toList ∧
    (checkAdmissible "(a".toList = .error .unclosedParen ∧ ¬Admissible "(a".toList ∧
      Extendable "(a".toList) ∧
    (checkAdmissible "a)?(".toList = .error (.unexpectedCloseParen 1) ∧
      PointOfNoReturn "a)?(".toList 1) ∧
    (checkAdmissible "(a?".toList = .error (.invalidChar '?' 2) ∧
      PointOfNoReturn "(a?".toList 2) := by
  obtain ⟨accepts, refuses⟩ := checkAdmissible_decides
  have hopen : checkAdmissible "(a".toList = .error .unclosedParen := by decide
  have hclose : checkAdmissible "a)?(".toList = .error (.unexpectedCloseParen 1) := by decide
  have hforeign : checkAdmissible "(a?".toList = .error (.invalidChar '?' 2) := by decide
  obtain ⟨-, -, -, unclosed⟩ := refuses "(a".toList (by decide) (by decide) (by decide)
  obtain ⟨-, -, unbalanced, -⟩ := refuses "a)?(".toList (by decide) (by decide) (by decide)
  obtain ⟨-, foreign, -⟩ := refuses "(a?".toList (by decide) (by decide) (by decide)
  exact ⟨(accepts _).1 (by decide), ⟨hopen, unclosed.1 hopen⟩,
    ⟨hclose, ((unbalanced 1).1 hclose).1⟩, ⟨hforeign, ((foreign '?' 2).1 hforeign).1⟩⟩

end RegexMachine
