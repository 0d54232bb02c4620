import Mathlib.Data.Set.Card
import RegexMachine.Proofs.Constructible
import RegexMachine.Proofs.Simulation.Run
import RegexMachine.Regex

namespace RegexMachine

/-- The ends of the walks that read `w` from the start. -/
def Automaton.reached (a : Automaton) (w : List Char) : Set Nat := {q | Path a.edges a.start w q}

variable {a : Automaton} {w : List Char} {ended : List Nat}

theorem Simulation.ncard_reached (h : a.simulation.run? w = some ended) :
    (a.reached w).ncard = ended.length := by
  obtain ⟨hnodup, hmem⟩ := mem_run? h
  have hset : a.reached w = ended.toFinset := by
    ext q
    rw [Finset.mem_coe, List.mem_toFinset, hmem]
    rfl
  rw [hset, Set.ncard_coe_finset, List.toFinset_card_of_nodup hnodup]

theorem Automaton.Proper.ncard_reached (ha : a.Proper) (w : List Char) :
    (a.reached w).ncard = (a.simulation.run w).length := by
  obtain ⟨ended, h⟩ := ha.exists_run? w
  rw [Simulation.ncard_reached h, Simulation.run, h]
  rfl

/-- A simulation ends in each state that some walk reaches by reading the text, once, and in no
other state, also if it stopped reading when no walk was left; the number of these states is what is
recorded. So a text is accepted if and only if some walk to the accepting state reads it. There is no
simulation if memory has no room for it, and it fails where a walk leads out of the states; no walk does so
if all sums were words while the automaton was built. -/
theorem run_reaches (a : Automaton) (w : List Char) :
    (a.simulation? = none ↔
      Simulation.capacity < a.states ∨ ∃ e ∈ a.edges, a.states ≤ e.source) ∧
    (∀ s, a.simulation? = some s →
      (s.run? w = none ↔ ∃ u v, u ++ v = w ∧ ∃ q, Path a.edges a.start u q ∧ a.states ≤ q) ∧
      ∀ ended, s.run? w = some ended →
        ended.Nodup ∧
        (∀ q, q ∈ ended ↔ Path a.edges a.start w q) ∧
        (∀ u v, u ++ v = w → s.run? u = some [] → ended = [] ∧ ∀ q, ¬Path a.edges a.start w q) ∧
        (s.accepts w = true ↔ a.Spells w) ∧
        (a.accepts w = true ↔ a.Spells w) ∧
        ∀ pattern input : String, input.toList = w →
          ((⟨pattern, a⟩ : Regex).isMatch input = true ↔ a.Spells w) ∧
          ∀ ε : Type, ((⟨pattern, a⟩ : Regex).query input : Logged ε Bool).log
            = [.simulated (a.reached w).ncard (a.accepts w)]) ∧
    (Constructible .checked a →
      (a.simulation? = none ↔ Simulation.capacity < a.states) ∧
      ∀ s, a.simulation? = some s → ∃ ended, s.run? w = some ended) := by
  refine ⟨Simulation.simulation?_eq_none, ?_, ?_⟩
  · intro s hs
    obtain rfl := Simulation.eq_simulation hs
    refine ⟨Simulation.run?_eq_none, ?_⟩
    intro ended h
    obtain ⟨hnodup, hmem⟩ := Simulation.mem_run? h
    have haccepts := Simulation.accepts_iff_spells h
    refine ⟨hnodup, hmem, ?_, haccepts, haccepts, ?_⟩
    · intro u v huv hstuck
      have hempty : ended = [] := by
        rw [← huv, Simulation.run?_append, hstuck, Option.bind_some, Simulation.advance?_nil] at h
        exact (Option.some.inj h).symm
      refine ⟨hempty, ?_⟩
      intro q hpath
      have hq := (hmem q).2 hpath
      rw [hempty] at hq
      cases hq
    · intro pattern input hinput
      subst hinput
      refine ⟨haccepts, ?_⟩
      intro ε
      have hrun : a.simulation.run input.toList = ended := by rw [Simulation.run, h]; rfl
      rw [Simulation.ncard_reached h, ← hrun]
      rfl
  · intro ha
    refine ⟨ha.proper.simulation?_eq_none, ?_⟩
    intro s hs
    obtain rfl := Simulation.eq_simulation hs
    exact ha.proper.exists_run? w

theorem run_reaches_nested_star :
    Constructible .checked (Automaton.literal 'a').star.star ∧
    (Automaton.literal 'a').star.star.accepts ['a', 'a'] = true ∧
    ∃ s, (Automaton.literal 'a').star.star.simulation? = some s ∧ s.run? ['b', 'a'] = some [] := by
  let star := (Automaton.literal 'a').star
  have hstar : Constructible .checked star := .star (.literal 'a') (by decide)
  have hnested : Constructible .checked star.star := .star hstar (by decide)
  obtain ⟨-, hreaches, hbuilt⟩ := run_reaches star.star ['a', 'a']
  have hs : star.star.simulation? = some star.star.simulation := if_pos (by decide)
  obtain ⟨-, hruns⟩ := hbuilt hnested
  obtain ⟨ended, hended⟩ := hruns _ hs
  obtain ⟨-, -, -, -, haccepts, -⟩ := (hreaches _ hs).2 ended hended
  have hword : Path star.star.edges 0 ['a', 'a'] 5 :=
    .free (q := 1) (by decide) <| .free (q := 2) (by decide) <| .read (q := 3) (by decide) <|
      .free (q := 2) (by decide) <| .read (q := 3) (by decide) <| .free (q := 4) (by decide) <|
      .free (q := 5) (by decide) <| .refl 5
  obtain ⟨-, hstops, hgoes⟩ := run_reaches star.star ['b', 'a']
  obtain ⟨rest, hrest⟩ := (hgoes hnested).2 _ hs
  obtain ⟨-, -, hstop, -⟩ := (hstops _ hs).2 rest hrest
  have hstuck : star.star.simulation.run? ['b'] = some [] := by decide +kernel
  obtain ⟨hempty, -⟩ := hstop ['b'] ['a'] rfl hstuck
  exact ⟨hnested, haccepts.2 hword, _, hs, hempty ▸ hrest⟩

/-- In every build there is an automaton that spells the empty text and has more states than a simulation
has room for. An unchecked build makes one that leads out of its states on its way to the accepting one. -/
theorem spells_unsimulated :
    (∃ a, (∀ k, Constructible k a) ∧ a.Spells [] ∧ a.simulation? = none) ∧
    ∃ a s, Constructible .unchecked a ∧ a.Spells ['a'] ∧ a.simulation? = some s ∧
      s.run? ['a'] = none := by
  apply And.intro
  · refine ⟨.bare (10 ^ 18), fun k => .bare (by decide), .refl 0, ?_⟩
    exact Simulation.simulation?_eq_none.2 (.inl (by decide))
  · let wrapped : Automaton := ⟨1, [⟨0, .char 'a', Word.size - 1⟩], 0, Word.size - 1⟩
    have hconcat : (Automaton.bare (Word.size - 1)).concat? .unchecked (.literal 'a')
        = some wrapped := by decide +kernel
    have hpath : Path wrapped.edges 0 ['a'] (Word.size - 1) := .read (.head _) (.refl _)
    have hs : wrapped.simulation? = some wrapped.simulation := if_pos (by decide)
    refine ⟨wrapped, _, .concat (.bare (by decide)) (.literal 'a') hconcat, hpath, hs, ?_⟩
    exact Simulation.run?_eq_none.2 ⟨['a'], [], rfl, _, hpath, by decide⟩

end RegexMachine
