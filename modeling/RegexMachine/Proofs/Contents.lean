import Mathlib.Algebra.FreeMonoid.Basic
import Mathlib.Algebra.GroupWithZero.Nat
import RegexMachine.Proofs.Automaton.Walk
import RegexMachine.Proofs.Scan.Conservation

namespace RegexMachine

open Automaton

/-- The characters that the edges read, in stored order. -/
def Automaton.letters (a : Automaton) : List Char := a.edges.flatMap (·.label.word)

namespace Automaton

variable {a b : Automaton}

/-- Two operands share a state, which is why one state of each is not counted. -/
theorem states_concat (ha : a.start < a.states) (hb : b.start < b.states) :
    (a.concat b).states - 1 = (a.states - 1) + (b.states - 1) := by
  simp only [concat]
  omega

theorem states_union (ha : a.start < a.states) (hb : b.start < b.states) :
    (a.union b).states - 1 = (a.states - 1) + (b.states - 1) + 3 := by
  simp only [union]
  omega

theorem states_loop (ha : a.start < a.states) (bypass : List Edge) :
    (a.loop bypass).states - 1 = (a.states - 1) + 2 := by
  simp only [loop]
  omega

theorem length_edges_concat : (a.concat b).edges.length = a.edges.length + b.edges.length := by
  simp [concat]

theorem length_edges_union : (a.union b).edges.length = a.edges.length + b.edges.length + 4 := by
  simp only [union, List.length_append, List.length_map, List.length_cons, List.length_nil]
  omega

theorem length_edges_loop (bypass : List Edge) :
    (a.loop bypass).edges.length = a.edges.length + (bypass.length + 3) := by
  simp only [loop, List.length_append, List.length_map, List.length_cons, List.length_nil]
  omega

theorem letters_concat : (a.concat b).letters = a.letters ++ b.letters := by
  simp [letters, concat, Edge.relabel, List.flatMap_map]

/-- Free moves read nothing, so that a choice and a repetition have no letters of their own. -/
theorem letters_union : (a.union b).letters = a.letters ++ b.letters := by
  simp [letters, union, Edge.relabel, List.flatMap_map, Label.word]

theorem letters_loop (bypass : List Edge) :
    (a.loop bypass).letters = bypass.flatMap (·.label.word) ++ a.letters := by
  simp [letters, loop, Edge.relabel, List.flatMap_map, Label.word]

end Automaton

namespace Quantity

def states : Quantity Nat where
  amount a := a.states - 1
  bar := 3
  star := 2
  plus := 2
  amount_concat ha hb := states_concat ha.proper.start_lt hb.proper.start_lt
  amount_union ha hb := states_union ha.proper.start_lt hb.proper.start_lt
  amount_star ha := states_loop ha.proper.start_lt _
  amount_plus ha := states_loop ha.proper.start_lt _
  bar_comm := AddCommute.all 3

def edges : Quantity Nat where
  amount a := a.edges.length
  bar := 4
  star := 4
  plus := 3
  amount_concat _ _ := length_edges_concat
  amount_union _ _ := length_edges_union
  amount_star _ := length_edges_loop _
  amount_plus _ := length_edges_loop _
  bar_comm := AddCommute.all 4

/-- The letters are added up in their order, which is why unions must add none when they are applied. -/
def letters : Quantity (FreeAddMonoid Char) where
  amount a := .ofList a.letters
  bar := 0
  star := 0
  plus := 0
  amount_concat _ _ := congrArg FreeAddMonoid.ofList letters_concat
  amount_union _ _ := by
    rw [add_zero]
    exact congrArg FreeAddMonoid.ofList letters_union
  amount_star _ := by
    rw [add_zero]
    exact congrArg FreeAddMonoid.ofList (letters_loop _)
  amount_plus _ := by
    rw [add_zero]
    exact congrArg FreeAddMonoid.ofList (letters_loop _)
  bar_comm := AddCommute.zero_left

/-- Where every literal amounts to `n`, a text brings in what its characters are counted for. -/
theorem sum_brought (m : Quantity Nat) {n : Nat} (hliteral : ∀ c, m.amount (.literal c) = n)
    (text : List Char) :
    (text.map m.brought).sum = n * text.countP isOperand + m.bar * text.count '|'
      + m.star * text.count '*' + m.plus * text.count '+' := by
  induction text with
  | nil => rfl
  | cons c text ih =>
    rw [List.map_cons, List.sum_cons, ih]
    cases hc : isOperand c with
    | true =>
      have hbar := isOperand_ne hc (d := '|') rfl
      have hstar := isOperand_ne hc (d := '*') rfl
      have hplus := isOperand_ne hc (d := '+') rfl
      simp [brought, hc, hliteral, hbar, hstar, hplus, Nat.mul_add]
      omega
    | false =>
      by_cases hmeant : c = '|' ∨ c = '*' ∨ c = '+'
      · rcases hmeant with rfl | rfl | rfl
        all_goals
          simp [brought, hc, Nat.mul_add]
          omega
      · obtain ⟨hbar, hstar, hplus⟩ : c ≠ '|' ∧ c ≠ '*' ∧ c ≠ '+' := by simpa using hmeant
        simp [brought, hc, hbar, hstar, hplus]

/-- Of a text, the letters and digits are brought in, in their order. -/
theorem toList_sum_brought (text : List Char) :
    (text.map letters.brought).sum.toList = text.filter isOperand := by
  have hbrought (c : Char) : (letters.brought c).toList = if isOperand c then [c] else [] := by
    cases hc : isOperand c with
    | true => simp [brought, hc, letters, Automaton.letters, literal, Label.word]
    | false => simp [brought, hc, letters]
  induction text with
  | nil => rfl
  | cons c text ih =>
    rw [List.map_cons, List.sum_cons, FreeAddMonoid.toList_add, ih, hbrought]
    cases hc : isOperand c <;> simp [hc]

theorem toList_held (operands : List Automaton) :
    (letters.held operands).toList = operands.reverse.flatMap Automaton.letters := by
  rw [held, FreeAddMonoid.toList_sum, List.map_map, List.flatMap_def]
  rfl

end Quantity

/-- Each letter or digit of an expression makes one state and one edge, each bar three states and four
edges, each star two and four, each plus two and three, and one state is there before; neither groups nor
spaces nor the order of all this matter. -/
theorem compile_size {expression : List Char} {a : Automaton}
    (h : (compile expression).result = .ok a) :
    a.states = expression.countP isOperand + 3 * expression.count '|'
      + 2 * (expression.count '*' + expression.count '+') + 1 ∧
    a.edges.length = expression.countP isOperand + 4 * expression.count '|'
      + 4 * expression.count '*' + 3 * expression.count '+' := by
  have hpos := (Scan.composed_compile h).proper.start_lt
  have hstates : a.states - 1 = (expression.map Quantity.states.brought).sum :=
    Quantity.states.amount_compile h
  have hedges : a.edges.length = (expression.map Quantity.edges.brought).sum :=
    Quantity.edges.amount_compile h
  rw [Quantity.states.sum_brought (n := 1) fun _ => rfl] at hstates
  rw [Quantity.edges.sum_brought (n := 1) fun _ => rfl] at hedges
  simp only [Quantity.states] at hstates
  simp only [Quantity.edges] at hedges
  apply And.intro
  · omega
  · omega

theorem compile_size_nested :
    ∃ a, (compile "((a b)*|c+)d".toList).result = .ok a ∧ a.states = 12 ∧ a.edges.length = 15 := by
  have hcompile : (compile "((a b)*|c+)d".toList).result
      = .ok ((((literal 'a').concat (literal 'b')).star.union (literal 'c').plus).concat
        (literal 'd')) := by decide +kernel
  obtain ⟨hstates, hedges⟩ := compile_size hcompile
  exact ⟨_, hcompile, hstates.trans (by decide), hedges.trans (by decide)⟩

/-- After any text that was read without a fault, well formed or not, the edges of the operands read the
letters and digits of the text, each once and in their order, whichever operands the operators took. So do
the edges of the automaton of an expression. -/
theorem letters_in_order :
    (∀ text s, (({} : Scan).readAll text).result = .ok s →
      s.operands.reverse.flatMap Automaton.letters = text.filter isOperand) ∧
    ∀ expression a, (compile expression).result = .ok a →
      a.letters = expression.filter isOperand := by
  apply And.intro
  · intro text s h
    have htotal := Quantity.letters.total_of_readAll h
    have hheld : Quantity.letters.total s = Quantity.letters.held s.operands := by
      simp [Quantity.total, Quantity.letters]
    rw [← Quantity.toList_held, ← hheld, htotal, Quantity.toList_sum_brought]
  · intro expression a h
    have hamount := Quantity.letters.amount_compile h
    rw [← Quantity.toList_sum_brought, ← hamount]
    rfl

/-- A bar that begins a group takes its left operand from outside. -/
theorem letters_in_order_borrowed :
    (∃ s, (({} : Scan).readAll "b(|a)c".toList).result = .ok s ∧
      s.operands = [literal 'c', (literal 'b').union (literal 'a')] ∧
      s.operands.reverse.flatMap Automaton.letters = ['b', 'a', 'c']) ∧
    ∃ a, (compile "b c|a*".toList).result = .ok a ∧ a.letters = ['b', 'c', 'a'] := by
  obtain ⟨read, compiled⟩ := letters_in_order
  have hread : (({} : Scan).readAll "b(|a)c".toList).result.map (·.operands)
      = .ok [literal 'c', (literal 'b').union (literal 'a')] := by decide +kernel
  have hcompile : (compile "b c|a*".toList).result
      = .ok (((literal 'b').concat (literal 'c')).union (literal 'a').star) := by decide +kernel
  refine ⟨?_, _, hcompile, (compiled _ _ hcompile).trans (by decide)⟩
  cases hscan : (({} : Scan).readAll "b(|a)c".toList).result with
  | error fault =>
    rw [hscan] at hread
    cases hread
  | ok s =>
    rw [hscan] at hread
    exact ⟨s, rfl, Except.ok.inj hread, (read _ s hscan).trans (by decide)⟩

end RegexMachine
