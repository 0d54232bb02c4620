import Mathlib.Tactic.SplitIfs
import RegexMachine.Automaton.Composition

namespace RegexMachine.Automaton

structure Proper (a : Automaton) : Prop where
  start_zero : a.start = 0
  accept_lt : a.accept < a.states
  source_lt : ∀ e ∈ a.edges, e.source < a.states
  target_lt : ∀ e ∈ a.edges, e.target < a.states
  no_entry : ∀ e ∈ a.edges, e.target ≠ a.start
  no_exit : ∀ e ∈ a.edges, e.source ≠ a.accept

variable {a b : Automaton}

theorem Proper.start_lt (ha : a.Proper) : a.start < a.states := by
  rw [ha.start_zero]
  exact Nat.zero_lt_of_lt ha.accept_lt

theorem splice_start (a b : Automaton) : a.splice b b.start = a.accept := by
  simp [splice]

/-- Only the start of the second operand is shared; its other states come after the first one. -/
theorem le_splice {q : Nat} (hq : q ≠ b.start) : a.states ≤ a.splice b q := by
  unfold splice
  split_ifs <;> omega

theorem splice_lt {q : Nat} (ha : a.Proper) (hb : b.Proper) (hq : q < b.states) :
    a.splice b q < a.states + b.states - 1 := by
  have hs := hb.start_zero
  have hl := ha.accept_lt
  unfold splice
  split_ifs <;> omega

theorem splice_inj {p q : Nat} (ha : a.accept < a.states) (h : a.splice b p = a.splice b q) :
    p = q := by
  unfold splice at h
  split_ifs at h <;> omega

theorem mem_concat {e : Edge} :
    e ∈ (a.concat b).edges ↔ e ∈ a.edges ∨ ∃ f ∈ b.edges, f.relabel (a.splice b) = e := by
  simp [concat]

theorem mem_union {e : Edge} :
    e ∈ (a.union b).edges ↔
      e = ⟨0, .epsilon, a.start + 1⟩ ∨ e = ⟨0, .epsilon, b.start + (a.states + 1)⟩ ∨
      (∃ f ∈ a.edges, f.relabel (· + 1) = e) ∨
      (∃ f ∈ b.edges, f.relabel (· + (a.states + 1)) = e) ∨
      e = ⟨a.accept + 1, .epsilon, a.states + b.states + 1⟩ ∨
      e = ⟨b.accept + (a.states + 1), .epsilon, a.states + b.states + 1⟩ := by
  simp [union]

theorem mem_loop {bypass : List Edge} {e : Edge} :
    e ∈ (a.loop bypass).edges ↔
      e ∈ bypass ∨ e = ⟨0, .epsilon, a.start + 1⟩ ∨
      (∃ f ∈ a.edges, f.relabel (· + 1) = e) ∨
      e = ⟨a.accept + 1, .epsilon, a.start + 1⟩ ∨
      e = ⟨a.accept + 1, .epsilon, a.states + 1⟩ := by
  simp [loop]

/-- The accepting state comes last, and the edges lead from below it to above the start. -/
theorem proper_of_edges (hstart : a.start = 0) (haccept : a.states = a.accept + 1)
    (hedges : ∀ e ∈ a.edges, e.source < a.accept ∧ e.target < a.states ∧ 0 < e.target) :
    a.Proper := by
  refine ⟨hstart, by omega, ?_, ?_, ?_, ?_⟩
  · intro e he
    have h := (hedges e he).1
    omega
  · intro e he
    exact (hedges e he).2.1
  · intro e he
    have h := (hedges e he).2.2
    omega
  · intro e he
    have h := (hedges e he).1
    omega

theorem proper_literal (c : Char) : (literal c).Proper := by
  apply proper_of_edges rfl rfl
  simp [literal]

theorem proper_bare (states : Nat) : (bare states).Proper where
  start_zero := rfl
  accept_lt := Nat.le_max_right states 1
  source_lt := nofun
  target_lt := nofun
  no_entry := nofun
  no_exit := nofun

/-- The accepting state of the second operand may be its start; then the result accepts where the
first operand does, and the second one has no edges to add there. -/
theorem proper_concat (ha : a.Proper) (hb : b.Proper) : (a.concat b).Proper where
  start_zero := ha.start_zero
  accept_lt := splice_lt ha hb hb.accept_lt
  source_lt := by
    intro e he
    change e.source < a.states + b.states - 1
    have hpos := hb.accept_lt
    rcases mem_concat.1 he with he | ⟨f, hf, rfl⟩
    · have h := ha.source_lt e he
      omega
    · exact splice_lt ha hb (hb.source_lt f hf)
  target_lt := by
    intro e he
    change e.target < a.states + b.states - 1
    have hpos := hb.accept_lt
    rcases mem_concat.1 he with he | ⟨f, hf, rfl⟩
    · have h := ha.target_lt e he
      omega
    · exact splice_lt ha hb (hb.target_lt f hf)
  no_entry := by
    intro e he
    change e.target ≠ a.start
    rcases mem_concat.1 he with he | ⟨f, hf, rfl⟩
    · exact ha.no_entry e he
    · have h : a.states ≤ a.splice b f.target := le_splice (hb.no_entry f hf)
      have hs := ha.start_lt
      change a.splice b f.target ≠ a.start
      omega
  no_exit := by
    intro e he
    change e.source ≠ a.splice b b.accept
    rcases mem_concat.1 he with he | ⟨f, hf, rfl⟩
    · by_cases hq : b.accept = b.start
      · rw [hq, splice_start]
        exact ha.no_exit e he
      · have h : a.states ≤ a.splice b b.accept := le_splice hq
        have hs := ha.source_lt e he
        omega
    · exact fun h => hb.no_exit f hf (splice_inj ha.accept_lt h)

theorem proper_union (ha : a.Proper) (hb : b.Proper) : (a.union b).Proper := by
  have hsa := ha.start_lt
  have hsb := hb.start_lt
  have hta := ha.accept_lt
  have htb := hb.accept_lt
  apply proper_of_edges rfl rfl
  intro e he
  simp only [union]
  rcases mem_union.1 he with rfl | rfl | ⟨f, hf, rfl⟩ | ⟨f, hf, rfl⟩ | rfl | rfl
  · dsimp only; omega
  · dsimp only; omega
  · have hs := ha.source_lt f hf
    have ht := ha.target_lt f hf
    simp only [Edge.relabel]
    omega
  · have hs := hb.source_lt f hf
    have ht := hb.target_lt f hf
    simp only [Edge.relabel]
    omega
  · dsimp only; omega
  · dsimp only; omega

/-- What bypasses a loop must lead from the new start forward. -/
theorem proper_loop {bypass : List Edge} (ha : a.Proper)
    (hb : ∀ e ∈ bypass, e.source = 0 ∧ 0 < e.target ∧ e.target < a.states + 2) :
    (a.loop bypass).Proper := by
  have hs := ha.start_lt
  have ht := ha.accept_lt
  apply proper_of_edges rfl rfl
  intro e he
  simp only [loop]
  rcases mem_loop.1 he with he | rfl | ⟨f, hf, rfl⟩ | rfl | rfl
  · have h := hb e he
    omega
  · dsimp only; omega
  · have hs := ha.source_lt f hf
    have ht := ha.target_lt f hf
    simp only [Edge.relabel]
    omega
  · dsimp only; omega
  · dsimp only; omega

theorem proper_star (ha : a.Proper) : a.star.Proper :=
  proper_loop ha (by simp)

theorem proper_plus (ha : a.Proper) : a.plus.Proper :=
  proper_loop ha (by simp)

end RegexMachine.Automaton
