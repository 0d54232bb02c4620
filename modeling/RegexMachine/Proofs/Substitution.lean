import RegexMachine.Proofs.Constructible
import RegexMachine.Proofs.Scan.Group
import RegexMachine.Proofs.Scan.Parallel
import RegexMachine.Proofs.Scan.Spaces
import RegexMachine.Proofs.Simulation.Run

namespace RegexMachine

namespace Automaton

theorem Proper.language_eq {a b : Automaton} (ha : a.Proper) (hb : b.Proper) :
    a.language = b.language ↔ ∀ w, a.accepts w = b.accepts w := by
  apply Iff.intro
  · intro h w
    have hw : a.Spells w ↔ b.Spells w := Set.ext_iff.1 h w
    rw [Bool.eq_iff_iff, ha.accepts_iff_spells, hb.accepts_iff_spells]
    exact hw
  · intro h
    ext w
    have hw : a.Spells w ↔ b.Spells w := by
      rw [← ha.accepts_iff_spells, ← hb.accepts_iff_spells, h w]
    exact hw

/-- Well-shaped automata that have one language if `same` holds. -/
structure Interchangeable (same : Prop) (a b : Automaton) : Prop where
  left : a.Proper
  right : b.Proper
  language : same → a.language = b.language

variable {same : Prop}

theorem Proper.interchangeable {a : Automaton} (ha : a.Proper) : Interchangeable same a a :=
  ⟨ha, ha, fun _ => rfl⟩

theorem congruence_interchangeable : Congruence (Interchangeable same) where
  concat := by
    intro a b c d h k
    refine ⟨proper_concat h.left k.left, proper_concat h.right k.right, ?_⟩
    intro hsame
    rw [language_concat h.left k.left, language_concat h.right k.right, h.language hsame,
      k.language hsame]
  union := by
    intro a b c d h k
    refine ⟨proper_union h.left k.left, proper_union h.right k.right, ?_⟩
    intro hsame
    rw [language_union h.left k.left, language_union h.right k.right, h.language hsame,
      k.language hsame]
  star := by
    intro a b h
    refine ⟨proper_star h.left, proper_star h.right, ?_⟩
    intro hsame
    rw [language_star h.left, language_star h.right, h.language hsame]
  plus := by
    intro a b h
    refine ⟨proper_plus h.left, proper_plus h.right, ?_⟩
    intro hsame
    rw [language_plus h.left, language_plus h.right, h.language hsame]

end Automaton

open Automaton

namespace Scan

variable {s : Scan} {u v text : List Char} {a b : Automaton} {same : Prop}

/-- The scan behind a group, with its position counted from there. -/
def behindGroup (s : Scan) (a : Automaton) : Scan := ⟨a :: s.operands, s.joined, s.outer, true, 0⟩

theorem result_compile_group (h : (compile text).result = .ok a)
    (hs : (({} : Scan).readAll u).result = .ok s) (v : List Char) :
    (compile (u ++ '(' :: text ++ ')' :: v)).result =
      ((s.behindGroup a).outcome v).mapError (·.relocate (· + (u.length + (text.length + 2)))) := by
  have htext : u ++ '(' :: text ++ ')' :: v = u ++ ('(' :: text ++ [')'] ++ v) := by simp
  have hposition : s.position = 0 + u.length := position_readAll hs
  have hbehind : Scan.mk (a :: s.operands) s.joined s.outer true (s.position + (text.length + 2))
      = (s.behindGroup a).atPosition ((s.behindGroup a).position
        + (u.length + (text.length + 2))) := by
    simp only [behindGroup, atPosition, hposition, Nat.zero_add]
  rw [result_compile, htext, outcome_append_of_ok hs, outcome_append_of_ok (readAll_group s h),
    hbehind, outcome_atPosition]

theorem parallel_behindGroup (hs : (({} : Scan).readAll u).result = .ok s)
    (hab : Interchangeable same a b) (v : List Char) :
    Parallel (Interchangeable same) ((s.behindGroup a).outcome v) ((s.behindGroup b).outcome v) := by
  have hoperands : List.Forall₂ (Interchangeable same) s.operands s.operands := by
    apply List.forall₂_same.2
    intro c hc
    exact (composed_readAll hs c hc).proper.interchangeable
  have hcounterparts : List.Forall₂ (Counterpart (Interchangeable same)) v v := by
    apply List.forall₂_same.2
    intro c _
    cases hc : isOperand c with
    | false => exact .other hc
    | true => exact .operand hc hc (proper_literal c).interchangeable
  exact outcome_parallel congruence_interchangeable hcounterparts
    ⟨.cons hab hoperands, rfl, rfl, rfl, rfl⟩

end Scan

/-- Two texts that compile can stand for each other in parentheses, whatever is around them, be it
well formed or not. Either both compounds compile, and match the same if the two texts do; or both fail
for the same reason, at the same place before the group or the same distance behind it, and never
inside. -/
theorem group_substitution {t₁ t₂ : List Char} {a₁ a₂ : Automaton}
    (h₁ : (compile t₁).result = .ok a₁) (h₂ : (compile t₂).result = .ok a₂) (u v : List Char) :
    (∃ b₁ b₂, (compile (u ++ '(' :: t₁ ++ ')' :: v)).result = .ok b₁ ∧
      (compile (u ++ '(' :: t₂ ++ ')' :: v)).result = .ok b₂ ∧
      ((∀ w, a₁.accepts w = a₂.accepts w) → ∀ w, b₁.accepts w = b₂.accepts w)) ∨
    ∃ error, (compile (u ++ '(' :: t₁ ++ ')' :: v)).result = .error error ∧
      (compile (u ++ '(' :: t₂ ++ ')' :: v)).result = .error (error.relocate fun position =>
        if position < u.length then position else position + t₂.length - t₁.length) ∧
      ∀ position, error.position? = some position → position < u.length ∨
        u.length + t₁.length + 2 ≤ position ∧ position < u.length + t₁.length + 2 + v.length := by
  cases hu : (({} : Scan).readAll u).result with
  | error error =>
    have hcompile : ∀ t, (compile (u ++ '(' :: t ++ ')' :: v)).result = .error error := by
      intro t
      rw [Scan.result_compile, List.append_assoc, Scan.outcome_append_of_error hu]
    have hbefore : ∀ position, error.position? = some position → position < u.length := by
      intro position hposition
      have houtcome := Scan.outcome_append_of_error hu []
      rw [List.append_nil] at houtcome
      have hrange := (Scan.position_outcome houtcome hposition).2
      rwa [Nat.zero_add] at hrange
    refine .inr ⟨error, hcompile t₁, ?_, fun position h => .inl (hbefore position h)⟩
    rw [hcompile t₂, CompileError.relocate_eq_self]
    intro position hposition
    exact if_pos (hbefore position hposition)
  | ok s =>
    have ha₁ := (Scan.composed_compile h₁).proper
    have ha₂ := (Scan.composed_compile h₂).proper
    have hlanguage : (∀ w, a₁.accepts w = a₂.accepts w) → a₁.language = a₂.language :=
      (ha₁.language_eq ha₂).2
    have hparallel := Scan.parallel_behindGroup hu ⟨ha₁, ha₂, hlanguage⟩ v
    rw [Scan.result_compile_group h₁ hu, Scan.result_compile_group h₂ hu]
    generalize hfirst : (s.behindGroup a₁).outcome v = first at hparallel
    generalize (s.behindGroup a₂).outcome v = second at hparallel
    cases hparallel with
    | @ok b₁ b₂ h =>
      refine .inl ⟨b₁, b₂, rfl, rfl, ?_⟩
      intro hsame
      exact (h.left.language_eq h.right).1 (h.language hsame)
    | error error =>
      refine .inr ⟨_, rfl, ?_, ?_⟩
      · -- both places are counted from the end of the group
        change Except.error _ = Except.error _
        rw [CompileError.relocate_relocate]
        congr 1
        apply CompileError.relocate_congr
        intro position _
        have hbehind : ¬position + (u.length + (t₁.length + 2)) < u.length := by omega
        simp only [Function.comp_apply, if_neg hbehind]
        omega
      · intro position hposition
        rw [CompileError.position?_relocate] at hposition
        obtain ⟨place, hplace, rfl⟩ := Option.map_eq_some_iff.1 hposition
        have hrange := (Scan.position_outcome hfirst hplace).2
        have hzero : (s.behindGroup a₁).position = 0 := rfl
        right
        omega

/-- Swapped alternatives match the same behind a letter and under a star; in front of a parenthesis
too many, the two spaces that come in with them move the fault by two. -/
theorem group_substitution_swapped :
    (∃ b₁ b₂, (compile "d(a|b)*".toList).result = .ok b₁ ∧
      (compile "d(b | a)*".toList).result = .ok b₂ ∧ ∀ w, b₁.accepts w = b₂.accepts w) ∧
    (compile "d(a|b)*)".toList).result = .error (.unbalancedParen 7) ∧
    (compile "d(b | a)*)".toList).result = .error (.unbalancedParen 9) := by
  have h₁ : (compile "a|b".toList).result = .ok ((literal 'a').union (literal 'b')) := by
    decide +kernel
  have h₂ : (compile "b | a".toList).result = .ok ((literal 'b').union (literal 'a')) := by
    decide +kernel
  have hsame : ∀ w, ((literal 'a').union (literal 'b')).accepts w
      = ((literal 'b').union (literal 'a')).accepts w := by
    have ha := proper_literal 'a'
    have hb := proper_literal 'b'
    apply ((proper_union ha hb).language_eq (proper_union hb ha)).1
    rw [language_union ha hb, language_union hb ha, add_comm]
  have hstar := group_substitution h₁ h₂ ['d'] ['*']
  have hclose := group_substitution h₁ h₂ ['d'] ['*', ')']
  have hcompiles : (compile (['d'] ++ '(' :: "a|b".toList ++ ')' :: ['*'])).result
      = .ok ((literal 'd').concat ((literal 'a').union (literal 'b')).star) := by decide +kernel
  have hfails : (compile (['d'] ++ '(' :: "a|b".toList ++ ')' :: ['*', ')'])).result
      = .error (.unbalancedParen 7) := by decide +kernel
  apply And.intro
  · rcases hstar with ⟨b₁, b₂, hb₁, hb₂, hmatch⟩ | ⟨error, herror, -⟩
    · exact ⟨b₁, b₂, hb₁, hb₂, hmatch hsame⟩
    · rw [hcompiles] at herror
      cases herror
  · rcases hclose with ⟨b₁, b₂, hb₁, -⟩ | ⟨error, herror, hmoved, -⟩
    · rw [hfails] at hb₁
      cases hb₁
    · rw [hfails] at herror
      cases herror
      exact ⟨hfails, hmoved⟩

end RegexMachine
