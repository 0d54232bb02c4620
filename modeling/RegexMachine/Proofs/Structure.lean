import RegexMachine.Proofs.Automaton.Degree
import RegexMachine.Proofs.Automaton.Walk
import RegexMachine.Proofs.Constructible

namespace RegexMachine

/-- Some walk from `start` to `stop` passes `q`. -/
def Passed (edges : List Edge) (start stop q : Nat) : Prop :=
  (∃ u, Path edges start u q) ∧ ∃ v, Path edges q v stop

namespace Passed

variable {edges more : List Edge} {p q r start stop : Nat} {u v : List Char}

theorem first (h : Passed edges start stop q) : Passed edges start stop start := by
  obtain ⟨⟨u, hu⟩, v, hv⟩ := h
  exact ⟨⟨[], .refl _⟩, u ++ v, hu.append hv⟩

theorem last (h : Passed edges start stop q) : Passed edges start stop stop := by
  obtain ⟨⟨u, hu⟩, v, hv⟩ := h
  exact ⟨⟨u ++ v, hu.append hv⟩, [], .refl _⟩

/-- Inside a larger automaton, a copy is passed on the way from what leads into it to what follows it. -/
theorem embed {f : Nat → Nat} (copy : ∀ e ∈ edges, e.relabel f ∈ more)
    (enter : Path more start u (f p)) (leave : Path more (f r) v stop) (h : Passed edges p r q) :
    Passed more start stop (f q) := by
  obtain ⟨⟨w, hw⟩, x, hx⟩ := h
  exact ⟨⟨u ++ w, enter.append (hw.embed copy)⟩, x ++ v, (hx.embed copy).append leave⟩

/-- The copy lies between two free moves. -/
theorem shift {offset : Nat} (copy : ∀ e ∈ edges, e.relabel (· + offset) ∈ more)
    (enter : ⟨start, .epsilon, p + offset⟩ ∈ more) (leave : ⟨r + offset, .epsilon, stop⟩ ∈ more)
    (h : Passed edges p r q) : Passed more start stop (q + offset) :=
  embed (f := (· + offset)) copy (.free enter (.refl _)) (.free leave (.refl _)) h

end Passed

namespace Automaton

variable {a b : Automaton}

/-- Every state is of use: some walk from the start to the accepting state passes it. -/
def Trim (a : Automaton) : Prop := ∀ q < a.states, Passed a.edges a.start a.accept q

theorem trim_literal (c : Char) : (literal c).Trim := by
  intro q hq
  have hstep : Path (literal c).edges 0 [c] 1 := .read (by simp [literal]) (.refl 1)
  have hstart : Passed (literal c).edges 0 1 0 := ⟨⟨[], .refl 0⟩, [c], hstep⟩
  change q < 2 at hq
  have hends : q = 0 ∨ q = 1 := by omega
  rcases hends with rfl | rfl
  · exact hstart
  · exact hstart.last

theorem trim_concat (ha : a.Proper) (hb : b.Proper) (hta : a.Trim) (htb : b.Trim) :
    (a.concat b).Trim := by
  have hfirst : ∀ e ∈ a.edges, e.relabel id ∈ (a.concat b).edges :=
    fun e he => mem_concat.2 (.inl he)
  have hsecond : ∀ e ∈ b.edges, e.relabel (a.splice b) ∈ (a.concat b).edges :=
    fun e he => mem_concat.2 (.inr ⟨e, he, rfl⟩)
  obtain ⟨⟨u, hu⟩, -⟩ := hta a.accept ha.accept_lt
  obtain ⟨-, v, hv⟩ := htb b.start hb.start_lt
  have hu := hu.embed hfirst
  have hv := hv.embed hsecond
  intro q hq
  change q < a.states + b.states - 1 at hq
  by_cases hqa : q < a.states
  · rw [splice_start] at hv
    exact Passed.embed hfirst (.refl _) hv (hta q hqa)
  · have hzero := hb.start_zero
    -- The start of `b` has no number of its own, so the later ones are one lower.
    have hq' : a.splice b (q + 1 - a.states) = q := by
      unfold splice
      split_ifs
      · omega
      · omega
      · omega
    have hpassed := htb (q + 1 - a.states) (by omega)
    rw [← hq']
    rw [← splice_start a b] at hu
    exact hpassed.embed hsecond hu (.refl _)

/-- Whatever passes a state between them passes the start and the accepting state. -/
theorem trim_of_inside (hstart : a.start = 0) (hstates : a.states = a.accept + 1)
    (hsome : 1 < a.accept) (h : ∀ q, q + 1 < a.accept → Passed a.edges 0 a.accept (q + 1)) :
    a.Trim := by
  intro q hq
  rw [hstart]
  have hone : Passed a.edges 0 a.accept 1 := h 0 hsome
  cases q with
  | zero => exact hone.first
  | succ q =>
    by_cases hlast : q + 1 = a.accept
    · rw [hlast]
      exact hone.last
    · exact h q (by omega)

theorem trim_union (ha : a.Proper) (hta : a.Trim) (htb : b.Trim) : (a.union b).Trim := by
  have hleft : ∀ q < a.states, Passed (a.union b).edges 0 (a.states + b.states + 1) (q + 1) := by
    intro q hq
    apply (hta q hq).shift
    · intro e he
      exact mem_union.2 (.inr (.inr (.inl ⟨e, he, rfl⟩)))
    · exact mem_union.2 (.inl rfl)
    · exact mem_union.2 (.inr (.inr (.inr (.inr (.inl rfl)))))
  have hright : ∀ q < b.states,
      Passed (a.union b).edges 0 (a.states + b.states + 1) (q + (a.states + 1)) := by
    intro q hq
    apply (htb q hq).shift
    · intro e he
      exact mem_union.2 (.inr (.inr (.inr (.inl ⟨e, he, rfl⟩))))
    · exact mem_union.2 (.inr (.inl rfl))
    · exact mem_union.2 (.inr (.inr (.inr (.inr (.inr rfl)))))
  have hpos := ha.start_lt
  apply trim_of_inside rfl rfl
  · change 1 < a.states + b.states + 1
    omega
  · intro q hq
    change q + 1 < a.states + b.states + 1 at hq
    by_cases hqa : q < a.states
    · exact hleft q hqa
    · have hq' : q - a.states + (a.states + 1) = q + 1 := by omega
      have hpassed := hright (q - a.states) (by omega)
      rwa [hq'] at hpassed

theorem trim_loop {bypass : List Edge} (ha : a.Proper) (hta : a.Trim) : (a.loop bypass).Trim := by
  have hpos := ha.start_lt
  apply trim_of_inside rfl rfl
  · change 1 < a.states + 1
    omega
  · intro q hq
    apply (hta q (Nat.lt_of_add_lt_add_right hq)).shift
    · intro e he
      exact mem_loop.2 (.inr (.inr (.inl ⟨e, he, rfl⟩)))
    · exact mem_loop.2 (.inr (.inl rfl))
    · exact mem_loop.2 (.inr (.inr (.inr (.inr rfl))))

/-- What every composition keeps, if no operand has a single state for both its ends. -/
structure Thompson (a : Automaton) : Prop where
  proper : a.Proper
  states_eq : a.states = a.accept + 1
  start_ne : a.start ≠ a.accept
  sparse : Sparse a.edges
  trim : a.Trim

namespace Thompson

theorem literal (c : Char) : (literal c).Thompson :=
  ⟨proper_literal c, rfl, Nat.zero_ne_one, sparse_literal c, trim_literal c⟩

theorem concat (ha : a.Thompson) (hb : b.Thompson) : (a.concat b).Thompson where
  proper := proper_concat ha.proper hb.proper
  states_eq := by
    have hlast := hb.states_eq
    have hzero := hb.proper.start_zero
    have hne := hb.start_ne
    change a.states + b.states - 1 = a.splice b b.accept + 1
    rw [splice, if_neg (Ne.symm hne), if_pos (by omega)]
    omega
  start_ne := by
    have hle : a.states ≤ a.splice b b.accept := le_splice hb.start_ne.symm
    have hlt := ha.proper.start_lt
    change a.start ≠ a.splice b b.accept
    omega
  sparse := sparse_concat ha.proper hb.proper ha.sparse hb.sparse
  trim := trim_concat ha.proper hb.proper ha.trim hb.trim

theorem union (ha : a.Thompson) (hb : b.Thompson) : (a.union b).Thompson where
  proper := proper_union ha.proper hb.proper
  states_eq := rfl
  start_ne := (Nat.succ_ne_zero _).symm
  sparse := sparse_union ha.proper hb.proper ha.sparse hb.sparse
  trim := trim_union ha.proper ha.trim hb.trim

theorem star (ha : a.Thompson) : a.star.Thompson where
  proper := proper_star ha.proper
  states_eq := rfl
  start_ne := (Nat.succ_ne_zero _).symm
  sparse := sparse_star ha.proper ha.start_ne ha.sparse
  trim := trim_loop ha.proper ha.trim

theorem plus (ha : a.Thompson) : a.plus.Thompson where
  proper := proper_plus ha.proper
  states_eq := rfl
  start_ne := (Nat.succ_ne_zero _).symm
  sparse := sparse_plus ha.proper ha.start_ne ha.sparse
  trim := trim_loop ha.proper ha.trim

end Thompson

end Automaton

theorem Composed.thompson {a : Automaton} (ha : Composed a) : a.Thompson := by
  induction ha with
  | literal c => exact .literal c
  | concat _ _ iha ihb => exact .concat iha ihb
  | union _ _ iha ihb => exact .union iha ihb
  | star _ ih => exact .star ih
  | plus _ ih => exact .plus ih

/-- A compiled automaton starts in its first state and accepts in its last, has no useless state, no
edge twice and none from a state to itself. At most two edges leave a state and at most two enter it;
one that reads a character is the only one at its source to leave and the only one at its target to
enter. -/
theorem compile_structure {expression : List Char} {a : Automaton}
    (h : (compile expression).result = .ok a) :
    (a.start = 0 ∧ a.accept + 1 = a.states ∧ a.start ≠ a.accept) ∧
    (∀ q < a.states, (∃ u, Path a.edges a.start u q) ∧ ∃ v, Path a.edges q v a.accept) ∧
    (a.edges.Nodup ∧ ∀ e ∈ a.edges, e.source ≠ e.target) ∧
    (∀ q, a.edges.countP (·.source = q) ≤ 2 ∧ a.edges.countP (·.target = q) ≤ 2) ∧
    ∀ e ∈ a.edges, ∀ c, e.label = .char c →
      (∀ f ∈ a.edges, f.source = e.source → f = e) ∧
      ∀ f ∈ a.edges, f.target = e.target → f = e := by
  have hthompson := (Scan.composed_compile h).thompson
  have hleaving := hthompson.sparse.leaving
  have hentering := hthompson.sparse.entering
  refine ⟨?_, hthompson.trim, ⟨hleaving.nodup, hthompson.sparse.no_loop⟩, ?_, ?_⟩
  · exact ⟨hthompson.proper.start_zero, hthompson.states_eq.symm, hthompson.start_ne⟩
  · intro q
    exact ⟨hleaving.degree q, hentering.degree q⟩
  · intro e he c hlabel
    have hreads : e.label ≠ .epsilon := by simp [hlabel]
    exact ⟨hleaving.alone e he hreads, hentering.alone e he hreads⟩

/-- State 3 is where the first alternative ends, inside the star that the last letter follows. -/
theorem compile_structure_star :
    ∃ a, (compile "(a|b)*c".toList).result = .ok a ∧ a.states = 9 ∧ a.accept = 8 ∧
      (∃ u, Path a.edges 0 u 3) ∧ (∃ v, Path a.edges 3 v 8) ∧
      a.edges.countP (·.target = 3) ≤ 2 ∧ ∀ f ∈ a.edges, f.target = 3 → f = ⟨2, .char 'a', 3⟩ := by
  have hcompile : (compile "(a|b)*c".toList).result
      = .ok (((Automaton.literal 'a').union (.literal 'b')).star.concat (.literal 'c')) := by
    decide +kernel
  obtain ⟨-, hpassed, -, hdegree, hchar⟩ := compile_structure hcompile
  obtain ⟨hreach, hfinish⟩ := hpassed 3 (by decide)
  have halone := (hchar ⟨2, .char 'a', 3⟩ (by decide) 'a' rfl).2
  exact ⟨_, hcompile, rfl, rfl, hreach, hfinish, (hdegree 3).2, halone⟩

end RegexMachine
