import RegexMachine.Constructible
import RegexMachine.Proofs.Automaton.Language
import RegexMachine.Proofs.Automaton.Machine
import RegexMachine.Proofs.Scan.Composed

namespace RegexMachine

variable {k : Build} {a b : Automaton}

/-- What a scan makes is made alike in every build, as long as the numbers of its states are words. -/
theorem Composed.constructible (ha : Composed a) (h : a.states + 1 < Word.size) :
    Constructible k a := by
  induction ha with
  | literal c => exact .literal c
  | concat ha hb iha ihb =>
    have hposa := ha.proper.start_lt
    have hposb := hb.proper.start_lt
    simp only [Automaton.concat] at h
    exact .concat (iha (by omega)) (ihb (by omega))
      (Automaton.concat?_eq_some ha.proper hb.proper (by omega))
  | union ha hb iha ihb =>
    simp only [Automaton.union] at h
    exact .union (iha (by omega)) (ihb (by omega))
      (Automaton.union?_eq_some ha.proper hb.proper (by omega))
  | star ha ih =>
    simp only [Automaton.star, Automaton.loop] at h
    exact .star (ih (by omega)) (Automaton.star?_eq_some ha.proper (by omega))
  | plus ha ih =>
    simp only [Automaton.plus, Automaton.loop] at h
    exact .plus (ih (by omega)) (Automaton.plus?_eq_some ha.proper (by omega))

namespace Constructible

/-- In a checked build nothing is built but automata of the right shape whose states have words as
numbers. -/
theorem proper_and_word (ha : Constructible .checked a) : a.Proper ∧ a.states < Word.size := by
  induction ha with
  | literal c =>
    have htwo : 2 < Word.size := by decide
    exact ⟨Automaton.proper_literal c, htwo⟩
  | bare word => exact ⟨Automaton.proper_bare _, Nat.max_lt.2 ⟨word, by decide⟩⟩
  | @compiled expression a short h =>
    have hstates := Scan.states_compile h
    have hsize : Word.size = 2 * Word.blockSize := rfl
    exact ⟨(Scan.composed_compile h).proper, by omega⟩
  | concat _ _ h iha ihb =>
    obtain ⟨hpa, -⟩ := iha
    obtain ⟨hpb, -⟩ := ihb
    obtain ⟨hsum, rfl⟩ := (Automaton.concat?_checked hpa hpb).1 h
    exact ⟨Automaton.proper_concat hpa hpb, Nat.lt_of_le_of_lt (Nat.sub_le _ 1) hsum⟩
  | union _ _ h iha ihb =>
    obtain ⟨hsum, rfl⟩ := (Automaton.union?_checked iha.1 ihb.1).1 h
    exact ⟨Automaton.proper_union iha.1 ihb.1, hsum⟩
  | star _ h ih =>
    obtain ⟨hsum, rfl⟩ := (Automaton.star?_checked ih.1).1 h
    exact ⟨Automaton.proper_star ih.1, hsum⟩
  | plus _ h ih =>
    obtain ⟨hsum, rfl⟩ := (Automaton.plus?_checked ih.1).1 h
    exact ⟨Automaton.proper_plus ih.1, hsum⟩

theorem proper (ha : Constructible .checked a) : a.Proper := ha.proper_and_word.1

theorem states_lt (ha : Constructible .checked a) : a.states < Word.size := ha.proper_and_word.2

/-- What a checked build builds, every build builds. -/
theorem of_checked (ha : Constructible .checked a) : Constructible k a := by
  induction ha with
  | literal c => exact .literal c
  | bare word => exact .bare word
  | compiled short h => exact .compiled short h
  | concat ha hb h iha ihb =>
    obtain ⟨hsum, rfl⟩ := (Automaton.concat?_checked ha.proper hb.proper).1 h
    exact .concat iha ihb (Automaton.concat?_eq_some ha.proper hb.proper hsum)
  | union ha hb h iha ihb =>
    obtain ⟨hsum, rfl⟩ := (Automaton.union?_checked ha.proper hb.proper).1 h
    exact .union iha ihb (Automaton.union?_eq_some ha.proper hb.proper hsum)
  | star ha h ih =>
    obtain ⟨hsum, rfl⟩ := (Automaton.star?_checked ha.proper).1 h
    exact .star ih (Automaton.star?_eq_some ha.proper hsum)
  | plus ha h ih =>
    obtain ⟨hsum, rfl⟩ := (Automaton.plus?_checked ha.proper).1 h
    exact .plus ih (Automaton.plus?_eq_some ha.proper hsum)

end Constructible

namespace Automaton

theorem spells_concat (ha : a.Proper) (hb : b.Proper) (w : List Char) :
    (a.concat b).Spells w ↔ ∃ u v, a.Spells u ∧ b.Spells v ∧ u ++ v = w := by
  change w ∈ (a.concat b).language ↔ _
  rw [language_concat ha hb, Language.mem_mul]
  apply Iff.intro
  · intro h
    obtain ⟨u, hu, v, hv, huv⟩ := h
    exact ⟨u, v, hu, hv, huv⟩
  · intro h
    obtain ⟨u, v, hu, hv, huv⟩ := h
    exact ⟨u, hu, v, hv, huv⟩

theorem spells_union (ha : a.Proper) (hb : b.Proper) (w : List Char) :
    (a.union b).Spells w ↔ a.Spells w ∨ b.Spells w := by
  change w ∈ (a.union b).language ↔ _
  rw [language_union ha hb]
  exact Language.mem_add _ _ _

theorem spells_star (ha : a.Proper) (w : List Char) : a.star.Spells w ↔
    ∃ rounds : List (List Char), (∀ u ∈ rounds, a.Spells u) ∧ rounds.flatten = w := by
  change w ∈ a.star.language ↔ _
  rw [language_star ha, Language.mem_kstar]
  apply exists_congr
  intro rounds
  rw [and_comm, eq_comm]
  rfl

theorem spells_plus (ha : a.Proper) (w : List Char) : a.plus.Spells w ↔
    ∃ rounds : List (List Char), rounds ≠ [] ∧ (∀ u ∈ rounds, a.Spells u) ∧
      rounds.flatten = w := by
  change w ∈ a.plus.language ↔ _
  rw [language_plus ha, Language.mem_mul]
  apply Iff.intro
  · intro h
    obtain ⟨u, hu, v, hv, huv⟩ := h
    obtain ⟨rounds, hflatten, hrounds⟩ := Language.mem_kstar.1 hv
    rw [hflatten] at huv
    exact ⟨u :: rounds, List.cons_ne_nil _ _, List.forall_mem_cons.2 ⟨hu, hrounds⟩, huv⟩
  · intro h
    obtain ⟨rounds, hne, hrounds, hflatten⟩ := h
    obtain ⟨u, rest, hcons⟩ := List.exists_cons_of_ne_nil hne
    subst hcons
    obtain ⟨hu, hrest⟩ := List.forall_mem_cons.1 hrounds
    exact ⟨u, hu, rest.flatten, Language.join_mem_kstar hrest, hflatten⟩

theorem spells_literal (c : Char) (w : List Char) : (literal c).Spells w ↔ w = [c] := by
  change w ∈ (literal c).language ↔ _
  rw [language_literal]
  exact Set.mem_singleton_iff

end Automaton

/-- As long as the numbers of states are words, sequence, choice and repetition of automata spell the
sequences, choices and repetitions of what their operands spell, in every build. -/
theorem spells_composition (ha : Constructible .checked a) (hb : Constructible .checked b)
    (k : Build) :
    (a.states + b.states < Word.size → ∃ c, a.concat? k b = some c ∧
      ∀ w, c.Spells w ↔ ∃ u v, a.Spells u ∧ b.Spells v ∧ u ++ v = w) ∧
    (a.states + b.states + 2 < Word.size → ∃ c, a.union? k b = some c ∧
      ∀ w, c.Spells w ↔ a.Spells w ∨ b.Spells w) ∧
    (a.states + 2 < Word.size → ∃ c, a.star? k = some c ∧
      ∀ w, c.Spells w ↔
        ∃ rounds : List (List Char), (∀ u ∈ rounds, a.Spells u) ∧ rounds.flatten = w) ∧
    (a.states + 2 < Word.size → ∃ c, a.plus? k = some c ∧
      ∀ w, c.Spells w ↔ ∃ rounds : List (List Char), rounds ≠ [] ∧ (∀ u ∈ rounds, a.Spells u) ∧
        rounds.flatten = w) := by
  have hpa := ha.proper
  have hpb := hb.proper
  refine ⟨?_, ?_, ?_, ?_⟩
  · intro h
    exact ⟨_, Automaton.concat?_eq_some hpa hpb h, Automaton.spells_concat hpa hpb⟩
  · intro h
    exact ⟨_, Automaton.union?_eq_some hpa hpb h, Automaton.spells_union hpa hpb⟩
  · intro h
    exact ⟨_, Automaton.star?_eq_some hpa h, Automaton.spells_star hpa⟩
  · intro h
    exact ⟨_, Automaton.plus?_eq_some hpa h, Automaton.spells_plus hpa⟩

theorem spells_composition_bare :
    (∃ c, (Automaton.literal 'a').concat? .checked (.bare 3) = some c ∧ c.Spells ['a']) ∧
    (∃ c, (Automaton.literal 'a').union? .unchecked (.bare 3) = some c ∧ c.Spells []) ∧
    (∃ c, (Automaton.literal 'a').star? .checked = some c ∧ c.Spells ['a', 'a']) ∧
    ∃ c, (Automaton.literal 'a').plus? .unchecked = some c ∧ ¬c.Spells [] := by
  have hb : Constructible .checked (.bare 3) := .bare (by decide)
  obtain ⟨hconcat, -, hstar, -⟩ := spells_composition (.literal 'a') hb .checked
  obtain ⟨-, hunion, -, hplus⟩ := spells_composition (.literal 'a') hb .unchecked
  have hliteral : (Automaton.literal 'a').Spells ['a'] := (Automaton.spells_literal 'a' _).2 rfl
  have hbare : (Automaton.bare 3).Spells [] := .refl 0
  refine ⟨?_, ?_, ?_, ?_⟩
  · obtain ⟨c, hc, hspells⟩ := hconcat (by decide)
    exact ⟨c, hc, (hspells ['a']).2 ⟨['a'], [], hliteral, hbare, rfl⟩⟩
  · obtain ⟨c, hc, hspells⟩ := hunion (by decide)
    exact ⟨c, hc, (hspells []).2 (.inr hbare)⟩
  · obtain ⟨c, hc, hspells⟩ := hstar (by decide)
    exact ⟨c, hc, (hspells ['a', 'a']).2 ⟨[['a'], ['a']], by simp [hliteral], rfl⟩⟩
  · obtain ⟨c, hc, hspells⟩ := hplus (by decide)
    refine ⟨c, hc, ?_⟩
    intro h
    obtain ⟨rounds, hne, hrounds, hflatten⟩ := (hspells []).1 h
    obtain ⟨u, rest, hcons⟩ := List.exists_cons_of_ne_nil hne
    subst hcons
    have hempty : u = [] := (List.append_eq_nil_iff.1 hflatten).1
    have hu := (Automaton.spells_literal 'a' u).1 (hrounds u (by simp))
    rw [hempty] at hu
    cases hu

/-- With as many states as there are words, a choice wraps around: the edge that enters its second operand
comes back to the new start, and each letter of that operand leads to the end. A checked build stops. -/
theorem union_wraps :
    ∃ a b, (∀ k, Constructible k a ∧ Constructible k b) ∧ a.union? .checked b = none ∧
      ∃ c, a.union? .unchecked b = some c ∧ c.Spells ['a'] ∧ ¬(a.Spells ['a'] ∨ b.Spells ['a']) := by
  let last : Automaton := .bare (Word.size - 1)
  let word : Automaton := (Automaton.literal 'a').concat (.literal 'b')
  let wrapped : Automaton := ⟨4, [⟨0, .epsilon, 1⟩, ⟨0, .epsilon, 0⟩, ⟨0, .char 'a', 1⟩,
    ⟨1, .char 'b', 2⟩, ⟨1, .epsilon, 3⟩, ⟨2, .epsilon, 3⟩], 0, 3⟩
  have hlast (k : Build) : Constructible k last := .bare (by decide)
  have hword (k : Build) : Constructible k word :=
    (Composed.concat (.literal 'a') (.literal 'b')).constructible (by decide)
  have hchecked : last.union? .checked word = none := by decide +kernel
  have hunchecked : last.union? .unchecked word = some wrapped := by decide +kernel
  have hspells : wrapped.Spells ['a'] :=
    .read (q := 1) (by decide) <| .free (q := 3) (by decide) <| .refl 3
  refine ⟨last, word, fun k => ⟨hlast k, hword k⟩, hchecked, wrapped, hunchecked, hspells, ?_⟩
  rintro (h | h)
  · cases h with
    | free he => cases he
    | read he => cases he
  · obtain ⟨u, v, hu, hv, huv⟩ :=
      (Automaton.spells_concat (Automaton.proper_literal 'a') (Automaton.proper_literal 'b') _).1 h
    rw [(Automaton.spells_literal 'a' u).1 hu, (Automaton.spells_literal 'b' v).1 hv] at huv
    cases huv

end RegexMachine
