import Mathlib.Logic.Equiv.Basic
import RegexMachine.Proofs.Automaton.Walk
import RegexMachine.Proofs.Constructible
import RegexMachine.Proofs.Scan.Parallel
import RegexMachine.Proofs.Simulation.Run

namespace RegexMachine

def Label.rename (r : Char → Char) : Label → Label
  | char c => char (r c)
  | epsilon => epsilon

def Edge.rename (r : Char → Char) (e : Edge) : Edge := { e with label := e.label.rename r }

/-- The same automaton, its edges in the same order, with every character that an edge reads renamed. -/
def Automaton.rename (r : Char → Char) (a : Automaton) : Automaton :=
  { a with edges := a.edges.map (·.rename r) }

variable {r : Char → Char}

theorem Label.word_rename (l : Label) : (l.rename r).word = l.word.map r := by
  cases l <;> rfl

/-- If no two characters get one name, the renamed edges read the renamed texts and no others. -/
theorem Path.rename_iff (hr : Function.Injective r) {edges : List Edge} {p q : Nat} {w : List Char} :
    Path (edges.map (·.rename r)) p (w.map r) q ↔ Path edges p w q := by
  apply Iff.intro
  · intro h
    generalize htext : w.map r = text at h
    induction h using Path.walk generalizing w with
    | refl =>
      obtain rfl := List.map_eq_nil_iff.1 htext
      exact .refl _
    | step e v he _ ih =>
      obtain ⟨f, hf, rfl⟩ := List.mem_map.1 he
      obtain ⟨first, rest, rfl, hfirst, hrest⟩ := List.map_eq_append_iff.1 htext
      have hword : (f.label.rename r).word = f.label.word.map r := f.label.word_rename
      have hlabel : first = f.label.word := List.map_injective_iff.2 hr (hfirst.trans hword)
      rw [hlabel]
      exact .step hf (ih hrest)
  · intro h
    induction h using Path.walk with
    | refl => exact .refl _
    | step e v he _ ih =>
      have hstep := Path.step (List.mem_map_of_mem he) ih
      have hword : (e.label.rename r).word = e.label.word.map r := e.label.word_rename
      rw [List.map_append, ← hword]
      exact hstep

namespace Automaton

variable (a b : Automaton)

theorem rename_concat : (a.concat b).rename r = (a.rename r).concat (b.rename r) := by
  simp only [rename, concat, List.map_append, List.map_map]
  rfl

theorem rename_union : (a.union b).rename r = (a.rename r).union (b.rename r) := by
  simp only [rename, union, List.map_append, List.map_map]
  rfl

theorem rename_loop (bypass : List Edge) :
    (a.loop bypass).rename r = (a.rename r).loop (bypass.map (·.rename r)) := by
  simp only [rename, loop, List.map_append, List.map_map]
  rfl

/-- Compositions do not look at labels. -/
theorem congruence_rename : Congruence fun a b => b = a.rename r where
  concat := by
    intro a b c d h k
    rw [h, k, rename_concat]
  union := by
    intro a b c d h k
    rw [h, k, rename_union]
  star := by
    intro a b h
    rw [h]
    exact (rename_loop a [⟨0, .epsilon, a.states + 1⟩]).symm
  plus := by
    intro a b h
    rw [h]
    exact (rename_loop a []).symm

end Automaton

/-- Both scans do the same, since the renaming takes operands to operands and leaves all else as it is. -/
theorem Scan.parallel_rename (operands : ∀ c, isOperand c = true → isOperand (r c) = true)
    (others : ∀ c, isOperand c = false → r c = c) (text : List Char) :
    Parallel (fun a b => b = a.rename r) (({} : Scan).outcome text)
      (({} : Scan).outcome (text.map r)) := by
  have hcounterpart (c : Char) : Counterpart (fun a b => b = a.rename r) c (r c) := by
    cases hc : isOperand c with
    | true => exact .operand hc (operands c hc) rfl
    | false =>
      rw [others c hc]
      exact .other hc
  have htext : List.Forall₂ (Counterpart fun a b => b = a.rename r) text (text.map r) :=
    List.forall₂_map_right_iff.2 (List.forall₂_same.2 fun c _ => hcounterpart c)
  exact outcome_parallel Automaton.congruence_rename htext ⟨.nil, rfl, rfl, rfl, rfl⟩

/-- Other letters and digits in an expression are other labels in its automaton and nothing else: states,
edges and their order are the same, and so is the fault if there is no automaton. A text is matched as it
was before if it is renamed too, provided that the renaming keeps different characters apart. -/
theorem compile_rename (injective : Function.Injective r)
    (operands : ∀ c, isOperand c = true → isOperand (r c) = true)
    (others : ∀ c, isOperand c = false → r c = c) (expression : List Char) :
    (compile (expression.map r)).result = (compile expression).result.map (·.rename r) ∧
    ∀ a b, (compile expression).result = .ok a → (compile (expression.map r)).result = .ok b →
      b = a.rename r ∧ ∀ w : List Char, b.accepts (w.map r) = a.accepts w := by
  have hparallel := Scan.parallel_rename operands others expression
  rw [← Scan.result_compile, ← Scan.result_compile] at hparallel
  have hresult : (compile (expression.map r)).result
      = (compile expression).result.map (·.rename r) := by
    generalize (compile expression).result = first at hparallel
    generalize (compile (expression.map r)).result = second at hparallel
    cases hparallel with
    | ok h => exact congrArg Except.ok h
    | error => rfl
  refine ⟨hresult, ?_⟩
  intro a b ha hb
  have hrenamed : b = a.rename r := by
    rw [ha, hb] at hresult
    exact Except.ok.inj hresult
  refine ⟨hrenamed, ?_⟩
  intro w
  have hspells : b.Spells (w.map r) ↔ a.Spells w := by
    rw [hrenamed]
    exact Path.rename_iff injective
  rw [Bool.eq_iff_iff, (Scan.composed_compile hb).proper.accepts_iff_spells,
    (Scan.composed_compile ha).proper.accepts_iff_spells]
  exact hspells

/-- The letter that stands for a free move in the written form of an automaton is a letter like any
other. -/
theorem compile_rename_epsilon :
    (∃ a b, (compile "(a|b)*c".toList).result = .ok a ∧ (compile "(ε|b)*c".toList).result = .ok b ∧
      b = a.rename (Equiv.swap 'a' 'ε') ∧ b.accepts "εbc".toList = a.accepts "abc".toList) ∧
    (compile "ε)b".toList).result = .error (.unbalancedParen 1) := by
  have injective : Function.Injective (Equiv.swap 'a' 'ε') := (Equiv.swap 'a' 'ε').injective
  have operands : ∀ c, isOperand c = true → isOperand (Equiv.swap 'a' 'ε' c) = true := by
    intro c hc
    rw [Equiv.swap_apply_def]
    split_ifs
    · decide
    · decide
    · exact hc
  have others : ∀ c, isOperand c = false → Equiv.swap 'a' 'ε' c = c := by
    intro c hc
    apply Equiv.swap_apply_of_ne_of_ne
    · rintro rfl
      cases hc
    · rintro rfl
      cases hc
  obtain ⟨-, hmatch⟩ := compile_rename injective operands others "(a|b)*c".toList
  obtain ⟨hfault, -⟩ := compile_rename injective operands others "a)b".toList
  have ha : (compile "(a|b)*c".toList).result
      = .ok (((Automaton.literal 'a').union (.literal 'b')).star.concat (.literal 'c')) := by
    decide +kernel
  have hb : (compile ("(a|b)*c".toList.map (Equiv.swap 'a' 'ε'))).result
      = .ok (((Automaton.literal 'ε').union (.literal 'b')).star.concat (.literal 'c')) := by
    decide +kernel
  have herror : (compile "a)b".toList).result = .error (.unbalancedParen 1) := by decide +kernel
  obtain ⟨hrenamed, haccepts⟩ := hmatch _ _ ha hb
  rw [herror] at hfault
  exact ⟨⟨_, _, ha, hb, hrenamed, haccepts "abc".toList⟩, hfault⟩

end RegexMachine
