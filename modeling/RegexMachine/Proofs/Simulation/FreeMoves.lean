import Mathlib.Order.Bounds.Defs
import RegexMachine.Proofs.Constructible
import RegexMachine.Proofs.Simulation.Run

namespace RegexMachine

/-- The least set that holds the seeds and all that free moves from it lead to is made of the ends of walks
that read nothing. -/
theorem isLeast_path (edges : List Edge) (seeds : List Nat) :
    IsLeast {found : Set Nat | (∀ p ∈ seeds, p ∈ found) ∧
      ∀ q ∈ found, ∀ r, ⟨q, .epsilon, r⟩ ∈ edges → r ∈ found}
      {q | ∃ p ∈ seeds, Path edges p [] q} := by
  refine ⟨⟨?_, ?_⟩, ?_⟩
  · intro p hp
    exact ⟨p, hp, .refl p⟩
  · intro q hq r he
    obtain ⟨p, hp, hpath⟩ := hq
    exact ⟨p, hp, hpath.append (.free he (.refl r))⟩
  · intro found hfound q hq
    obtain ⟨hseeds, hclosed⟩ := hfound
    obtain ⟨p, hp, hpath⟩ := hq
    exact hpath.free_invariant (P := (· ∈ found)) hclosed (hseeds p hp)

/-- A search that comes to its end has met the least set that holds its seeds and is closed under free
moves, and has left every state of it once. It fails if and only if free moves lead to a number that is no
state, hence, if all sums were words while the automaton was built, if and only if some seed is no state;
such an automaton has a simulation unless memory has no room for it. -/
theorem free_moves_reach (a : Automaton) (seeds : List Nat) :
    (∀ s, a.simulation? = some s →
      (s.search? seeds = none ↔ ∃ q, (∃ p ∈ seeds, Path a.edges p [] q) ∧ a.states ≤ q) ∧
      ∀ seen left, s.search? seeds = some (seen, left) →
        IsLeast {found : Set Nat | (∀ p ∈ seeds, p ∈ found) ∧
          ∀ q ∈ found, ∀ r, ⟨q, .epsilon, r⟩ ∈ a.edges → r ∈ found} {q | seen[q]? = some true} ∧
        left.Nodup ∧ (∀ q, q ∈ left ↔ seen[q]? = some true) ∧
        a.closure? seeds = some (left.mergeSort (· ≤ ·))) ∧
    (Constructible .checked a →
      (a.simulation? = none ↔ Simulation.capacity < a.states) ∧
      ∀ s, a.simulation? = some s → (s.search? seeds = none ↔ ∃ p ∈ seeds, a.states ≤ p)) := by
  apply And.intro
  · intro s hs
    obtain rfl := Simulation.eq_simulation hs
    refine ⟨Simulation.search?_eq_none, ?_⟩
    intro seen left h
    obtain ⟨hnodup, hmet, -⟩ := Simulation.marks_search? h
    have hset : {q | seen[q]? = some true} = {q | ∃ p ∈ seeds, Path a.edges p [] q} := by
      ext q
      exact (hmet q).trans (Simulation.mem_search? h)
    refine ⟨hset ▸ isLeast_path a.edges seeds, hnodup, fun q => (hmet q).symm, ?_⟩
    rw [Automaton.closure?, hs, Option.bind_eq_bind, Option.bind_some, Simulation.closure?, h]
    rfl
  · intro ha
    refine ⟨ha.proper.simulation?_eq_none, ?_⟩
    intro s hs
    obtain rfl := Simulation.eq_simulation hs
    rw [Simulation.search?_eq_none]
    apply Iff.intro
    · intro h
      obtain ⟨q, ⟨p, hp, hpath⟩, hle⟩ := h
      refine ⟨p, hp, ?_⟩
      by_contra hlt
      exact absurd (ha.proper.path_lt hpath (Nat.lt_of_not_le hlt)) (Nat.not_lt.2 hle)
    · intro h
      obtain ⟨p, hp, hle⟩ := h
      exact ⟨p, ⟨p, hp, .refl p⟩, hle⟩

/-- Inside two stars, the end of the inner round leads everywhere but back to the start. -/
theorem free_moves_reach_nested_star :
    ∃ s, (Automaton.literal 'a').star.star.simulation? = some s ∧
      (∃ seen left, s.search? [3, 3] = some (seen, left) ∧ 5 ∈ left ∧ 0 ∉ left ∧ left.Nodup) ∧
      s.search? [0, 6] = none := by
  let star := (Automaton.literal 'a').star
  have hstar : Constructible .checked star := .star (.literal 'a') (by decide)
  have hnested : Constructible .checked star.star := .star hstar (by decide)
  have hs : star.star.simulation? = some star.star.simulation := if_pos (by decide)
  obtain ⟨hreach, hbuilt⟩ := free_moves_reach star.star [3, 3]
  obtain ⟨-, hrefused⟩ := free_moves_reach star.star [0, 6]
  refine ⟨_, hs, ?_, ((hrefused hnested).2 _ hs).2 ⟨6, by decide, by decide⟩⟩
  cases hfound : star.star.simulation.search? [3, 3] with
  | none =>
    obtain ⟨p, hp, hle⟩ := ((hbuilt hnested).2 _ hs).1 hfound
    exact absurd hle (by revert p; decide)
  | some found =>
    obtain ⟨seen, left⟩ := found
    obtain ⟨⟨⟨hseeds, hclosed⟩, hleast⟩, hnodup, hmem, -⟩ := (hreach _ hs).2 seen left hfound
    have hfour := hclosed 3 (hseeds 3 (by simp)) 4 (by decide)
    have hfive := hclosed 4 hfour 5 (by decide)
    refine ⟨seen, left, rfl, (hmem 5).2 hfive, ?_, hnodup⟩
    intro h
    have hpositive : {q | seen[q]? = some true} ⊆ {q | 0 < q} := by
      apply hleast
      refine ⟨by decide, ?_⟩
      intro q _ r he
      exact Nat.pos_of_ne_zero (hnested.proper.no_entry _ he)
    exact Nat.lt_irrefl 0 (hpositive ((hmem 0).1 h))

/-- In every build there is an automaton with more states than a simulation has room for, so that nothing
follows free moves from its start. An unchecked build makes one where they lead out of its states. -/
theorem free_moves_unsimulated :
    (∃ a, (∀ k, Constructible k a) ∧ 0 < a.states ∧ a.closure? [0] = none) ∧
    ∃ a s, Constructible .unchecked a ∧ 0 < a.states ∧ a.simulation? = some s ∧
      s.search? [0] = none := by
  apply And.intro
  · refine ⟨.bare (10 ^ 18), fun k => .bare (by decide), by decide, ?_⟩
    rw [Automaton.closure?, Simulation.simulation?_eq_none.2 (.inl (by decide))]
    rfl
  · let long : Automaton := (Automaton.bare (Word.size - 3)).star
    let wrapped : Automaton := ⟨2, long.edges, 0, Word.size - 2⟩
    have hlong : (Automaton.bare (Word.size - 3)).star? .unchecked = some long := by decide +kernel
    have hconcat : long.concat? .unchecked (.bare 4) = some wrapped := by decide +kernel
    have hs : wrapped.simulation? = some wrapped.simulation := if_pos (by decide)
    have hfree : Path wrapped.edges 0 [] (Word.size - 2) := .free (.head _) (.refl _)
    refine ⟨wrapped, _, .concat (.star (.bare (by decide)) hlong) (.bare (by decide)) hconcat,
      by decide, hs, ?_⟩
    exact Simulation.search?_eq_none.2 ⟨_, ⟨0, by simp, hfree⟩, by decide⟩

end RegexMachine
