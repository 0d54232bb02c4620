import RegexMachine.Proofs.Constructible
import RegexMachine.Proofs.Simulation.Run

namespace RegexMachine

variable {text : List Char} {s : Scan} {a : Automaton}

/-- The operands of a scan can be made in every build, since no text is as long as a block of memory. -/
theorem Scan.constructible_of_readAll (k : Build) (short : text.length < Word.blockSize)
    (h : (({} : Scan).readAll text).result = .ok s) (ha : a ∈ s.operands) : Constructible k a := by
  have hstates := states_readAll h ha
  have hsize : Word.size = 2 * Word.blockSize := rfl
  exact (composed_readAll h a ha).constructible (by omega)

/-- As long as no sum overflows, every automaton that can be built starts in state 0, has only edges between
its states, none into its start and none out of its accepting state. It can be composed with each other one
in every build, with no assertion failing and no number going below zero, unless a sum overflows there; it
can be simulated on every text without leading out of its states, unless memory has no room for the
simulation. All operands of a scan are such automata, whatever was read. -/
theorem constructible_safe :
    (∀ a, Constructible .checked a →
      (1 ≤ a.states ∧ a.states < Word.size ∧ a.start = 0 ∧ a.accept < a.states ∧
        ∀ e ∈ a.edges, e.source < a.states ∧ e.target < a.states ∧
          e.target ≠ a.start ∧ e.source ≠ a.accept) ∧
      (∀ b, Constructible .checked b →
        (a.concat? .checked b = none ↔ Word.size ≤ a.states + b.states) ∧
        (a.union? .checked b = none ↔ Word.size ≤ a.states + b.states + 2) ∧
        ∀ k, (a.states + b.states < Word.size → a.concat? k b = some (a.concat b)) ∧
          (a.states + b.states + 2 < Word.size → a.union? k b = some (a.union b))) ∧
      (a.star? .checked = none ↔ Word.size ≤ a.states + 2) ∧
      (a.plus? .checked = none ↔ Word.size ≤ a.states + 2) ∧
      (∀ k, a.states + 2 < Word.size → a.star? k = some a.star ∧ a.plus? k = some a.plus) ∧
      (a.simulation? = none ↔ Simulation.capacity < a.states) ∧
      ∀ s, a.simulation? = some s → ∀ w, ∃ ended, s.run? w = some ended) ∧
    ∀ k text s, text.length < Word.blockSize → (({} : Scan).readAll text).result = .ok s →
      ∀ b ∈ s.operands, Constructible k b := by
  apply And.intro
  · intro a ha
    have hpa := ha.proper
    refine ⟨?_, ?_, ?_, ?_, ?_, hpa.simulation?_eq_none, ?_⟩
    · refine ⟨Nat.zero_lt_of_lt hpa.accept_lt, ha.states_lt, hpa.start_zero, hpa.accept_lt, ?_⟩
      intro e he
      exact ⟨hpa.source_lt e he, hpa.target_lt e he, hpa.no_entry e he, hpa.no_exit e he⟩
    · intro b hb
      have hpb := hb.proper
      refine ⟨?_, ?_, ?_⟩
      · exact Word.eq_none_iff (Automaton.concat?_eq_some hpa hpb) Automaton.concat?_eq_none
      · exact Word.eq_none_iff (Automaton.union?_eq_some hpa hpb) Automaton.union?_eq_none
      · intro k
        exact ⟨Automaton.concat?_eq_some hpa hpb, Automaton.union?_eq_some hpa hpb⟩
    · exact Word.eq_none_iff (Automaton.star?_eq_some hpa) Automaton.star?_eq_none
    · exact Word.eq_none_iff (Automaton.plus?_eq_some hpa) Automaton.plus?_eq_none
    · intro k h
      exact ⟨Automaton.star?_eq_some hpa h, Automaton.plus?_eq_some hpa h⟩
    · intro s hs
      obtain rfl := Simulation.eq_simulation hs
      exact hpa.exists_run?
  · intro k text s short h b hb
    exact Scan.constructible_of_readAll k short h hb

theorem constructible_safe_bare :
    (Automaton.bare 0).concat? .unchecked ((Automaton.bare 3).concat (.literal 'a'))
      = some ((Automaton.bare 0).concat ((Automaton.bare 3).concat (.literal 'a'))) ∧
    (Automaton.bare (Word.size - 2)).star? .checked = none ∧
    (∃ ended, (Automaton.bare 3).star.simulation.run? ['a'] = some ended) ∧
    ∃ s, (({} : Scan).readAll "a|*(".toList).result = .ok s ∧
      ∀ b ∈ s.operands, Constructible .unchecked b := by
  obtain ⟨safe, scanned⟩ := constructible_safe
  have hzero : Constructible .checked (.bare 0) := .bare (by decide)
  have hthree : Constructible .checked (.bare 3) := .bare (by decide)
  have hjoin : Constructible .checked ((Automaton.bare 3).concat (.literal 'a')) :=
    .concat hthree (.literal 'a') (by decide)
  have hlast : Constructible .checked (.bare (Word.size - 2)) := .bare (by decide)
  have hstar : Constructible .checked (Automaton.bare 3).star := .star hthree (by decide)
  obtain ⟨-, hpair, -⟩ := safe _ hzero
  obtain ⟨-, -, hover, -⟩ := safe _ hlast
  obtain ⟨-, -, -, -, -, -, hquery⟩ := safe _ hstar
  have hread : (({} : Scan).readAll "a|*(".toList).result
      = .ok ⟨[.star (.literal 'a')], [], [[.concat, .union]], false, 4⟩ := rfl
  refine ⟨?_, hover.2 (by decide), hquery _ (if_pos (by decide)) ['a'], _, hread, ?_⟩
  · exact ((hpair _ hjoin).2.2 .unchecked).1 (by decide)
  · exact scanned .unchecked _ _ (by decide) hread

/-- With as many states as there are words, a repetition wraps around in an unchecked build: one state is
left, an edge leads out of the states, one enters the start and one leaves the accepting state. A checked
build stops. -/
theorem star_wraps :
    ∃ a b, (∀ k, Constructible k a) ∧ a.star? .checked = none ∧
      a.star? .unchecked = some b ∧ Constructible .unchecked b ∧
      (∃ e ∈ b.edges, b.states ≤ e.target) ∧ (∃ e ∈ b.edges, e.target = b.start) ∧
      ∃ e ∈ b.edges, e.source = b.accept := by
  let last : Automaton := .bare (Word.size - 1)
  let wrapped : Automaton := ⟨1, [⟨0, .epsilon, 0⟩, ⟨0, .epsilon, 1⟩, ⟨1, .epsilon, 1⟩,
    ⟨1, .epsilon, 0⟩], 0, 0⟩
  have hlast (k : Build) : Constructible k last := .bare (by decide)
  have hchecked : last.star? .checked = none := by decide +kernel
  have hunchecked : last.star? .unchecked = some wrapped := by decide +kernel
  exact ⟨last, wrapped, hlast, hchecked, hunchecked, .star (hlast _) hunchecked, by decide,
    by decide, by decide⟩

end RegexMachine
