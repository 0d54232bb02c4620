import RegexMachine.Proofs.Constructible
import RegexMachine.Proofs.Scan.Translation

namespace RegexMachine

namespace Automaton

variable {k : Build} {a b c first last : Automaton} {factors rest : List Automaton}

theorem bind_concat?_eq_some (ha : a.Proper) (hb : b.Proper) (hc : c.Proper)
    (h : a.states + b.states + c.states ≤ Word.size) :
    (a.concat? k b).bind (·.concat? k c) = some ((a.concat b).concat c) ∧
      (b.concat? k c).bind (a.concat? k ·) = some ((a.concat b).concat c) := by
  have hposa := ha.start_lt
  have hposb := hb.start_lt
  have hposc := hc.start_lt
  have hleft : (a.concat b).states + c.states < Word.size := by
    simp only [concat]
    omega
  have hright : a.states + (b.concat c).states < Word.size := by
    simp only [concat]
    omega
  apply And.intro
  · rw [concat?_eq_some ha hb (by omega), Option.bind_some,
      concat?_eq_some (proper_concat ha hb) hc hleft]
  · rw [concat?_eq_some hb hc (by omega), Option.bind_some,
      concat?_eq_some ha (proper_concat hb hc) hright, concat_assoc a hb.start_lt]

/-- A checked build stops on both ways of joining three automata, or on none. -/
theorem concat?_assoc (ha : a.Proper) (hb : b.Proper) (hc : c.Proper) :
    (a.concat? .checked b).bind (·.concat? .checked c)
      = (b.concat? .checked c).bind (a.concat? .checked ·) := by
  by_cases h : a.states + b.states + c.states ≤ Word.size
  · obtain ⟨hleft, hright⟩ := bind_concat?_eq_some (k := .checked) ha hb hc h
    rw [hleft, hright]
  · have hleft : (a.concat? .checked b).bind (·.concat? .checked c) = none := by
      rw [Option.bind_eq_none_iff]
      intro ab hab
      obtain ⟨-, rfl⟩ := (concat?_checked ha hb).1 hab
      apply concat?_eq_none
      simp only [concat]
      omega
    have hright : (b.concat? .checked c).bind (a.concat? .checked ·) = none := by
      rw [Option.bind_eq_none_iff]
      intro bc hbc
      obtain ⟨-, rfl⟩ := (concat?_checked hb hc).1 hbc
      apply concat?_eq_none
      simp only [concat]
      omega
    rw [hleft, hright]

theorem states_le_foldl (hrest : ∀ a ∈ rest, a.Proper) (first : Automaton) :
    first.states ≤ (rest.foldl concat first).states := by
  induction rest generalizing first with
  | nil => exact Nat.le_refl _
  | cons second rest ih =>
    obtain ⟨hsecond, hrest⟩ := List.forall_mem_cons.1 hrest
    have hpos := hsecond.start_lt
    have hgrows := ih hrest (first.concat second)
    simp only [concat] at hgrows
    rw [List.foldl_cons]
    exact Nat.le_trans (by omega) hgrows

theorem foldlM_concat? (hfirst : first.Proper) (hrest : ∀ a ∈ rest, a.Proper)
    (h : (rest.foldl concat first).states + 1 < Word.size) :
    rest.foldlM (concat? k) first = some (rest.foldl concat first) := by
  induction rest generalizing first with
  | nil => rfl
  | cons second rest ih =>
    obtain ⟨hsecond, hrest⟩ := List.forall_mem_cons.1 hrest
    have hgrows := states_le_foldl hrest (first.concat second)
    have hsum : first.states + second.states < Word.size := by
      have hpos := hsecond.start_lt
      simp only [concat] at hgrows
      simp only [List.foldl_cons, concat] at h
      omega
    rw [List.foldlM_cons, concat?_eq_some hfirst hsecond hsum]
    exact ih (proper_concat hfirst hsecond) hrest h

theorem proper_foldr (hfactors : ∀ a ∈ factors, a.Proper) (hlast : last.Proper) :
    (factors.foldr concat last).Proper := by
  rw [foldr_concat_eq_sequence fun a ha => (hfactors a ha).start_lt]
  apply proper_sequence
  simpa [or_imp, forall_and] using ⟨hfactors, hlast⟩

theorem foldrM_concat? (hfactors : ∀ a ∈ factors, a.Proper) (hlast : last.Proper)
    (h : (factors.foldr concat last).states + 1 < Word.size) :
    factors.foldrM (concat? k) last = some (factors.foldr concat last) := by
  induction factors with
  | nil => rfl
  | cons factor factors ih =>
    obtain ⟨hfactor, hfactors⟩ := List.forall_mem_cons.1 hfactors
    have hpos := hfactor.start_lt
    have hrest := proper_foldr hfactors hlast
    have hposrest := hrest.start_lt
    simp only [List.foldr_cons, concat] at h
    rw [List.foldrM_cons, ih hfactors (by omega)]
    exact concat?_eq_some hfactor hrest (by omega)

theorem foldrM_checked (hfactors : ∀ a ∈ factors, a.Proper) (hlast : last.Proper)
    (h : factors.foldrM (concat? .checked) last = some c) : factors.foldr concat last = c := by
  induction factors generalizing c with
  | nil => exact Option.some.inj h
  | cons factor factors ih =>
    obtain ⟨hfactor, hfactors⟩ := List.forall_mem_cons.1 hfactors
    rw [List.foldrM_cons] at h
    obtain ⟨right, hright, hjoin⟩ := Option.bind_eq_some_iff.1 h
    obtain rfl := ih hfactors hright
    exact ((concat?_checked hfactor (proper_foldr hfactors hlast)).1 hjoin).2

/-- A checked build stops on a run of operands in both directions, or in none. -/
theorem foldlM_checked (hfirst : first.Proper) (hfactors : ∀ a ∈ factors, a.Proper)
    (hlast : last.Proper) :
    (factors ++ [last]).foldlM (concat? .checked) first
      = (first :: factors).foldrM (concat? .checked) last := by
  induction factors generalizing first with
  | nil =>
    simp
  | cons second factors ih =>
    obtain ⟨hsecond, hfactors⟩ := List.forall_mem_cons.1 hfactors
    have hleft : (first.concat? .checked second).bind
          (fun left => (factors ++ [last]).foldlM (concat? .checked) left)
        = (first.concat? .checked second).bind fun left =>
          (factors.foldrM (concat? .checked) last).bind fun right =>
            left.concat? .checked right := by
      apply Option.bind_congr
      intro left h
      obtain ⟨-, rfl⟩ := (concat?_checked hfirst hsecond).1 h
      rw [ih (proper_concat hfirst hsecond) hfactors, List.foldrM_cons]
      rfl
    have hright : (factors.foldrM (concat? .checked) last).bind
          (fun right => (second.concat? .checked right).bind fun right =>
            first.concat? .checked right)
        = (factors.foldrM (concat? .checked) last).bind fun right =>
          (first.concat? .checked second).bind fun left => left.concat? .checked right := by
      apply Option.bind_congr
      intro right h
      obtain rfl := foldrM_checked hfactors hlast h
      exact (concat?_assoc hfirst hsecond (proper_foldr hfactors hlast)).symm
    simp only [List.cons_append, List.foldlM_cons, List.foldrM_cons, Option.bind_eq_bind,
      Option.bind_assoc, hleft, hright]
    exact Option.bind_comm _ _

end Automaton

open Automaton

/-- A union that takes a run of operands into its left operand joins them from the first one on. -/
theorem Level.applyUnion_run (factors : List Automaton) (last right : Automaton)
    (below : List Automaton) :
    applyUnion factors.length (right :: last :: (factors.reverse ++ below))
      = .ok ((sequence (factors ++ [last])).union right :: below) := by
  obtain ⟨first, rest, hrun⟩ := List.exists_cons_of_ne_nil (List.concat_ne_nil last factors)
  have hlength : rest.reverse.length = factors.length := by
    have h := congrArg List.length hrun
    simpa using h.symm
  have hstack : last :: (factors.reverse ++ below) = rest.reverse ++ first :: below := by
    have h := congrArg (·.reverse ++ below) hrun
    simpa using h
  rw [hstack, hrun, ← foldr_reverse_eq_sequence]
  exact applyUnion_eq_ok.2 ⟨right, rest.reverse, first, below, rfl, hlength, rfl⟩

/-- As long as no sum overflows, concatenation is associative, and a state without edges is its unit. A
run of operands that is joined at the end of a level, from the last one back, therefore becomes the same
automaton as one that a union takes into its left operand, which is joined from the first one on. A build
that checks its sums stops on both ways of joining three automata or a run of them, or on none. -/
theorem concat_monoid :
    (∀ a b c, Constructible .checked a → Constructible .checked b → Constructible .checked c →
      (a.concat? .checked b).bind (·.concat? .checked c)
        = (b.concat? .checked c).bind (a.concat? .checked ·) ∧
      ∀ k, a.states + b.states + c.states ≤ Word.size →
        (a.concat? k b).bind (·.concat? k c) = some ((a.concat b).concat c) ∧
        (b.concat? k c).bind (a.concat? k ·) = some ((a.concat b).concat c)) ∧
    (∀ a, Constructible .checked a → ∀ k, a.states + 1 < Word.size →
      (bare 1).concat? k a = some a ∧ a.concat? k (bare 1) = some a) ∧
    ∀ first factors last, Constructible .checked first →
      (∀ a ∈ factors, Constructible .checked a) → Constructible .checked last →
      (factors ++ [last]).foldlM (concat? .checked) first
        = (first :: factors).foldrM (concat? .checked) last ∧
      (∀ k, (sequence (first :: factors ++ [last])).states + 1 < Word.size →
        (factors ++ [last]).foldlM (concat? k) first
          = some (sequence (first :: factors ++ [last])) ∧
        (first :: factors).foldrM (concat? k) last
          = some (sequence (first :: factors ++ [last]))) ∧
      (∀ level below, (Level.collapse
          (List.replicate (first :: factors).length .concat ++ level)
          (last :: ((first :: factors).reverse ++ below))).result
        = (Level.collapse level (sequence (first :: factors ++ [last]) :: below)).result) ∧
      ∀ right below, Level.applyUnion (first :: factors).length
          (right :: last :: ((first :: factors).reverse ++ below))
        = .ok ((sequence (first :: factors ++ [last])).union right :: below) := by
  refine ⟨?_, ?_, ?_⟩
  · intro a b c ha hb hc
    refine ⟨concat?_assoc ha.proper hb.proper hc.proper, ?_⟩
    intro k h
    exact bind_concat?_eq_some ha.proper hb.proper hc.proper h
  · intro a ha k h
    have hbare := concat?_eq_some (k := k) (proper_bare 1) ha.proper (by rw [Nat.add_comm]; exact h)
    have hunit := concat?_eq_some (k := k) ha.proper (proper_bare 1) h
    rw [bare_one_concat ha.proper.start_zero] at hbare
    rw [concat_bare_one] at hunit
    exact ⟨hbare, hunit⟩
  · intro first factors last hfirst hfactors hlast
    have hproper : ∀ a ∈ first :: factors, a.Proper :=
      List.forall_mem_cons.2 ⟨hfirst.proper, fun a ha => (hfactors a ha).proper⟩
    have hrest : ∀ a ∈ factors ++ [last], a.Proper := by
      intro a ha
      rcases List.mem_append.1 ha with ha | ha
      · exact (hfactors a ha).proper
      · exact List.mem_singleton.1 ha ▸ hlast.proper
    have hsequence := foldr_concat_eq_sequence (fun a ha => (hproper a ha).start_lt) last
    refine ⟨?_, ?_, ?_, Level.applyUnion_run (first :: factors) last⟩
    · exact foldlM_checked hfirst.proper (fun a ha => (hfactors a ha).proper) hlast.proper
    · intro k h
      refine ⟨foldlM_concat? hfirst.proper hrest h, ?_⟩
      rw [← hsequence] at h ⊢
      exact foldrM_concat? hproper hlast.proper h
    · intro level below
      have hcollapse :=
        Level.result_collapse_run last (first :: factors).reverse level below
      rwa [List.length_reverse, List.reverse_reverse, hsequence] at hcollapse

/-- Operands without edges at the end of a run, alone, and between two letters. -/
theorem concat_monoid_bare :
    ((literal 'a').concat? .checked (bare 3)).bind (·.concat? .checked (bare 0))
      = ((bare 3).concat? .checked (bare 0)).bind ((literal 'a').concat? .checked ·) ∧
    (bare 1).concat? .unchecked (bare 3) = some (bare 3) ∧
    [bare 0, literal 'b'].foldlM (concat? .unchecked) (literal 'a')
      = [literal 'a', bare 0].foldrM (concat? .unchecked) (literal 'b') ∧
    (Level.collapse [.concat, .concat] [literal 'b', bare 0, literal 'a']).result
      = .ok [sequence [literal 'a', bare 0, literal 'b']] := by
  obtain ⟨hassoc, hunit, hrun⟩ := concat_monoid
  have hbare (n : Nat) (h : n < 4) : Constructible .checked (bare n) :=
    .bare (Nat.lt_trans h (by decide))
  obtain ⟨-, hfold, hcollapse, -⟩ := hrun (literal 'a') [bare 0] (literal 'b') (.literal 'a')
    (by simpa using hbare 0 (by decide)) (.literal 'b')
  obtain ⟨hleft, hright⟩ := hfold .unchecked (by decide)
  refine ⟨(hassoc _ _ _ (.literal 'a') (hbare 3 (by decide)) (hbare 0 (by decide))).1, ?_,
    hleft.trans hright.symm, ?_⟩
  · exact (hunit _ (hbare 3 (by decide)) .unchecked (by decide)).1
  · exact (hcollapse [] []).trans (Level.collapse_nil_eq_ok.2 rfl)

/-- With as many states as there are words, the two ways of joining three automata differ in an unchecked
build, and joining the unit stops a checked one. -/
theorem concat_wraps :
    ∃ a b, (∀ k, Constructible k a ∧ Constructible k b ∧ Constructible k (bare 1)) ∧
      (a.concat? .unchecked b).bind (·.concat? .unchecked b)
        ≠ (b.concat? .unchecked b).bind (a.concat? .unchecked ·) ∧
      a.concat? .checked (bare 1) = none := by
  refine ⟨bare (Word.size - 1), bare 2,
    fun k => ⟨.bare (by decide), .bare (by decide), .bare (by decide)⟩, ?_, by decide +kernel⟩
  have hleft : ((bare (Word.size - 1)).concat? .unchecked (bare 2)).bind
      (·.concat? .unchecked (bare 2)) = some (bare 2) := by decide +kernel
  have hright : ((bare 2).concat? .unchecked (bare 2)).bind
      ((bare (Word.size - 1)).concat? .unchecked ·) = some (bare 1) := by decide +kernel
  rw [hleft, hright]
  decide

end RegexMachine
