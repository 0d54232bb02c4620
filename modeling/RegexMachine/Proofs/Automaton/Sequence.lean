import RegexMachine.Expression.Grammar
import RegexMachine.Proofs.Automaton.Language

namespace RegexMachine.Automaton

variable {a b c : Automaton}

theorem splice_of_lt {q : Nat} (hq : b.start < q) : a.splice b q = a.states + q - 1 := by
  unfold splice
  rw [if_neg (Nat.ne_of_gt hq), if_pos hq]

/-- Renumbering into `b` and then into `a` is renumbering into their sequence. -/
theorem splice_splice (hb : b.start < b.states) (q : Nat) :
    a.splice (b.concat c) (b.splice c q) = (a.concat b).splice c q := by
  by_cases hq : q = c.start
  · subst q
    rw [splice_start, splice_start]
    rfl
  · have hle : b.states ≤ b.splice c q := le_splice hq
    have hlt : (b.concat c).start < b.splice c q := Nat.lt_of_lt_of_le hb hle
    rw [splice_of_lt hlt]
    unfold splice
    simp only [if_neg hq, concat]
    split_ifs <;> omega

theorem concat_assoc (a : Automaton) (hb : b.start < b.states) (c : Automaton) :
    (a.concat b).concat c = a.concat (b.concat c) := by
  have hstates : (a.concat b).states + c.states - 1 = a.states + (b.concat c).states - 1 := by
    simp only [concat]
    omega
  have hedges : (c.edges.map (·.relabel (b.splice c))).map (·.relabel (a.splice (b.concat c)))
      = c.edges.map (·.relabel ((a.concat b).splice c)) := by
    rw [List.map_map]
    apply List.map_congr_left
    intro e he
    simp only [Function.comp_apply, Edge.relabel, splice_splice hb]
  have haccept := splice_splice (a := a) (c := c) hb c.accept
  simp only [concat] at hstates hedges haccept ⊢
  rw [hstates, List.map_append, hedges, haccept, List.append_assoc]
  rfl

/-- A state without edges adds nothing behind an automaton. -/
theorem concat_bare_one (a : Automaton) : a.concat (bare 1) = a := by
  have haccept : a.splice (bare 1) (bare 1).accept = a.accept := splice_start a (bare 1)
  simp only [concat, haccept]
  simp [bare]

/-- Nor does it in front of one, since the states of `a` then keep their numbers. -/
theorem bare_one_concat (hstart : a.start = 0) : (bare 1).concat a = a := by
  have hsplice (q : Nat) : (bare 1).splice a q = q := by
    simp only [splice, hstart, bare]
    split_ifs <;> omega
  have hedges : a.edges.map (·.relabel ((bare 1).splice a)) = a.edges := by
    simp [Edge.relabel, hsplice]
  have hstates : (bare 1).states + a.states - 1 = a.states := by simp [bare]
  have hzero : (bare 1).start = a.start := hstart.symm
  rw [concat, hedges, hstates, hsplice, hzero]
  rfl

/-- The last two operands of a sequence may be joined first. -/
theorem sequence_join (factors : List Automaton) (hb : b.start < b.states) (c : Automaton) :
    sequence (factors ++ [b.concat c]) = sequence (factors ++ [b, c]) := by
  cases factors with
  | nil => rfl
  | cons first rest =>
    simp only [sequence, List.cons_append, List.foldl_append, List.foldl_cons, List.foldl_nil]
    rw [concat_assoc _ hb]

/-- Joining from the last operand back makes the same automaton as joining from the first one on. -/
theorem foldr_concat_eq_sequence {factors : List Automaton} (h : ∀ a ∈ factors, a.start < a.states)
    (last : Automaton) : factors.foldr concat last = sequence (factors ++ [last]) := by
  -- with any operands in front, so that what is joined first may be taken apart again
  have hbefore (before : List Automaton) :
      sequence (before ++ [factors.foldr concat last]) = sequence (before ++ (factors ++ [last])) := by
    induction factors generalizing before with
    | nil => rfl
    | cons factor factors ih =>
      obtain ⟨hfactor, hfactors⟩ := List.forall_mem_cons.1 h
      have hrest := ih hfactors (before ++ [factor])
      rw [List.foldr_cons, sequence_join before hfactor]
      simpa using hrest
  exact hbefore []

theorem foldr_reverse_eq_sequence (first : Automaton) (rest : List Automaton) :
    rest.reverse.foldr (fun factor left => left.concat factor) first
      = sequence (first :: rest) := by
  rw [List.foldr_reverse]
  rfl

theorem proper_sequence {factors : List Automaton} (h : ∀ a ∈ factors, a.Proper) :
    (sequence factors).Proper := by
  cases factors with
  | nil => exact proper_bare 1
  | cons first rest =>
    obtain ⟨hfirst, hrest⟩ := List.forall_mem_cons.1 h
    change (rest.foldl concat first).Proper
    clear h
    induction rest generalizing first with
    | nil => exact hfirst
    | cons second rest ih =>
      obtain ⟨hsecond, hrest⟩ := List.forall_mem_cons.1 hrest
      exact ih (first.concat second) (proper_concat hfirst hsecond) hrest

theorem proper_choice {alternatives : List Automaton} (h : ∀ a ∈ alternatives, a.Proper) :
    (choice alternatives).Proper := by
  induction alternatives using choice.induct with
  | case1 => exact proper_bare 1
  | case2 last => exact h last (by simp)
  | case3 first second rest ih =>
    obtain ⟨hfirst, hrest⟩ := List.forall_mem_cons.1 h
    exact proper_union hfirst (ih hrest)

theorem language_sequence {factors : List Automaton} (h : ∀ a ∈ factors, a.Proper) :
    (sequence factors).language = (factors.map language).prod := by
  cases factors with
  | nil => exact language_bare 1
  | cons first rest =>
    obtain ⟨hfirst, hrest⟩ := List.forall_mem_cons.1 h
    change (rest.foldl concat first).language = _
    clear h
    induction rest generalizing first with
    | nil => simp
    | cons second rest ih =>
      obtain ⟨hsecond, hrest⟩ := List.forall_mem_cons.1 hrest
      have hfold := ih (first.concat second) (proper_concat hfirst hsecond) hrest
      simp only [List.foldl_cons, hfold, List.map_cons, List.prod_cons,
        language_concat hfirst hsecond, mul_assoc]

theorem language_choice {alternatives : List Automaton} (h : ∀ a ∈ alternatives, a.Proper)
    (hne : alternatives ≠ []) :
    (choice alternatives).language = (alternatives.map language).sum := by
  induction alternatives using choice.induct with
  | case1 => exact absurd rfl hne
  | case2 last => simp [choice]
  | case3 first second rest ih =>
    obtain ⟨hfirst, hrest⟩ := List.forall_mem_cons.1 h
    rw [choice, language_union hfirst (proper_choice hrest), ih hrest (by simp)]
    rfl

end RegexMachine.Automaton
