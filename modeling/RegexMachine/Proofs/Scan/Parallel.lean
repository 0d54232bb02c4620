import Mathlib.Data.List.Forall2
import RegexMachine.Proofs.Scan.Outcome

namespace RegexMachine

/-- Both fail for the same reason, or both give results that `R` relates. -/
inductive Parallel {ε α β : Type} (R : α → β → Prop) : Except ε α → Except ε β → Prop
  | ok {a : α} {b : β} (h : R a b) : Parallel R (.ok a) (.ok b)
  | error (e : ε) : Parallel R (.error e) (.error e)

theorem Parallel.bind {ε α β γ δ : Type} {R : α → β → Prop} {S : γ → δ → Prop}
    {x : Except ε α} {y : Except ε β} {f : α → Except ε γ} {g : β → Except ε δ}
    (h : Parallel R x y) (hfg : ∀ a b, R a b → Parallel S (f a) (g b)) :
    Parallel S (x >>= f) (y >>= g) := by
  cases h with
  | ok h => exact hfg _ _ h
  | error e => exact .error e

/-- A relation that compositions of related automata keep. -/
structure Congruence (R : Automaton → Automaton → Prop) : Prop where
  concat {a b c d : Automaton} : R a b → R c d → R (a.concat c) (b.concat d)
  union {a b c d : Automaton} : R a b → R c d → R (a.union c) (b.union d)
  star {a b : Automaton} : R a b → R a.star b.star
  plus {a b : Automaton} : R a b → R a.plus b.plus

variable {R : Automaton → Automaton → Prop}

namespace Level

variable {xs ys : List Automaton}

theorem applyConcat_parallel (hR : Congruence R) (h : List.Forall₂ R xs ys) :
    Parallel (List.Forall₂ R) (applyConcat xs) (applyConcat ys) := by
  cases h with
  | nil => exact .error _
  | cons hright h =>
    cases h with
    | nil => exact .error _
    | cons hleft h => exact .ok (.cons (hR.concat hleft hright) h)

theorem foldr_related (hR : Congruence R) {a b : Automaton} (h : List.Forall₂ R xs ys)
    (hfirst : R a b) :
    R (xs.foldr (fun factor left => left.concat factor) a)
      (ys.foldr (fun factor left => left.concat factor) b) := by
  induction h with
  | nil => exact hfirst
  | cons hfactor _ ih => exact hR.concat ih hfactor

theorem applyUnion_parallel (hR : Congruence R) (joints : Nat) (h : List.Forall₂ R xs ys) :
    Parallel (List.Forall₂ R) (applyUnion joints xs) (applyUnion joints ys) := by
  cases h with
  | nil => exact .error _
  | @cons right right' rest rest' hright h =>
    have hlength := h.length_eq
    have htake := List.forall₂_take joints h
    have hdrop := List.forall₂_drop joints h
    simp only [applyUnion]
    by_cases hshort : rest.length < joints
    · rw [if_pos hshort, if_pos (hlength ▸ hshort)]
      exact .error _
    · rw [if_neg hshort, if_neg (hlength ▸ hshort)]
      generalize rest.drop joints = first at hdrop
      generalize rest'.drop joints = first' at hdrop
      cases hdrop with
      | nil => exact .error _
      | cons hfirst hbelow =>
        exact .ok (.cons (hR.union (foldr_related hR htake hfirst) hright) hbelow)

theorem collapse_parallel (hR : Congruence R) {level : List Operator} (h : List.Forall₂ R xs ys) :
    Parallel (List.Forall₂ R) (collapse level xs).result (collapse level ys).result := by
  induction level, xs using collapse.induct generalizing ys with
  | case1 xs =>
    rw [collapse, collapse]
    exact .ok h
  | case2 level xs ih =>
    rw [result_collapse_concat_cons, result_collapse_concat_cons]
    exact (applyConcat_parallel hR h).bind fun applied _ hs => ih applied hs
  | case3 level xs ih =>
    rw [result_collapse_union_cons, result_collapse_union_cons]
    exact (applyUnion_parallel hR _ h).bind fun applied _ hs => ih applied hs

end Level

/-- Characters that a scan treats alike: operands with related automata, or the same character. -/
inductive Counterpart (R : Automaton → Automaton → Prop) : Char → Char → Prop
  | operand {c d : Char} (hc : isOperand c = true) (hd : isOperand d = true)
      (h : R (.literal c) (.literal d)) : Counterpart R c d
  | other {c : Char} (hc : isOperand c = false) : Counterpart R c c

theorem Counterpart.eq_of_isSpecial {c d : Char} (h : Counterpart R c d) (hc : isSpecial c = true) :
    d = c := by
  cases h with
  | operand hoperand => exact absurd rfl (isOperand_ne hoperand hc)
  | other => rfl

namespace Scan

/-- Scans that differ in their operands at most, which are related one by one. -/
structure Corresponds (R : Automaton → Automaton → Prop) (s t : Scan) : Prop where
  operands : List.Forall₂ R s.operands t.operands
  level : s.level = t.level
  outer : s.outer = t.outer
  joins : s.joins = t.joins
  position : s.position = t.position

variable {s t next : Scan} {c d : Char} {error : CompileError} {text other : List Char}

theorem Corresponds.collapse (hR : Congruence R) (h : Corresponds R s t) :
    Parallel (List.Forall₂ R) (Level.collapse s.level s.operands).result
      (Level.collapse t.level t.operands).result := by
  rw [h.level]
  exact Level.collapse_parallel hR h.operands

theorem Corresponds.operands_cons {last : Automaton} {below : List Automaton}
    (h : Corresponds R s t) (top : s.operands = last :: below) :
    ∃ last' below', R last last' ∧ List.Forall₂ R below below' ∧ t.operands = last' :: below' := by
  have hoperands := h.operands
  rw [top] at hoperands
  exact List.forall₂_cons_left_iff.1 hoperands

theorem Corresponds.operands_nil (h : Corresponds R s t) (bare : s.operands = []) :
    t.operands = [] := by
  have hoperands := h.operands
  rw [bare] at hoperands
  exact List.forall₂_nil_left_iff.1 hoperands

theorem Corresponds.joined (h : Corresponds R s t) : s.joined = t.joined := by
  rw [Scan.joined, Scan.joined, h.level, h.joins]

theorem step_parallel (hR : Congruence R) (h : Corresponds R s t) (hc : Counterpart R c d)
    (hstep : Step s c next) : ∃ after, Step t d after ∧ Corresponds R next after := by
  have hposition := congrArg (· + 1) h.position
  cases hstep with
  | space =>
    obtain rfl := hc.eq_of_isSpecial rfl
    exact ⟨_, .space, { h with position := hposition }⟩
  | star top =>
    obtain rfl := hc.eq_of_isSpecial rfl
    obtain ⟨last, below, hlast, hbelow, top'⟩ := h.operands_cons top
    exact ⟨_, .star top', .cons (hR.star hlast) hbelow, h.level, h.outer, rfl, hposition⟩
  | plus top =>
    obtain rfl := hc.eq_of_isSpecial rfl
    obtain ⟨last, below, hlast, hbelow, top'⟩ := h.operands_cons top
    exact ⟨_, .plus top', .cons (hR.plus hlast) hbelow, h.level, h.outer, rfl, hposition⟩
  | opening =>
    obtain rfl := hc.eq_of_isSpecial rfl
    have houter : s.joined :: s.outer = t.joined :: t.outer := by rw [h.joined, h.outer]
    exact ⟨_, .opening, h.operands, rfl, houter, rfl, hposition⟩
  | closing inside collapsed =>
    obtain rfl := hc.eq_of_isSpecial rfl
    have hcollapse := h.collapse hR
    rw [collapsed] at hcollapse
    generalize hresult : (Level.collapse t.level t.operands).result = result at hcollapse
    cases hcollapse with
    | ok hoperands =>
      have inside' := h.outer.symm.trans inside
      exact ⟨_, .closing inside' hresult, hoperands, rfl, rfl, rfl, hposition⟩
  | bar =>
    obtain rfl := hc.eq_of_isSpecial rfl
    exact ⟨_, .bar, h.operands, congrArg (.union :: ·) h.level, h.outer, rfl, hposition⟩
  | operand hoperand =>
    cases hc with
    | operand _ hoperand' hliteral =>
      exact ⟨_, .operand hoperand', .cons hliteral h.operands, h.joined, h.outer, rfl, hposition⟩
    | other hother =>
      rw [hoperand] at hother
      cases hother

theorem fault_parallel (hR : Congruence R) (h : Corresponds R s t) (hc : Counterpart R c d)
    (hfault : Fault s c error) : Fault t d error := by
  cases hfault with
  | star bare =>
    obtain rfl := hc.eq_of_isSpecial rfl
    exact .star (h.operands_nil bare)
  | plus bare =>
    obtain rfl := hc.eq_of_isSpecial rfl
    exact .plus (h.operands_nil bare)
  | unbalanced outside =>
    obtain rfl := hc.eq_of_isSpecial rfl
    rw [h.position]
    exact .unbalanced (h.outer.symm.trans outside)
  | shortage inside failed =>
    obtain rfl := hc.eq_of_isSpecial rfl
    have hcollapse := h.collapse hR
    rw [failed] at hcollapse
    generalize hresult : (Level.collapse t.level t.operands).result = result at hcollapse
    cases hcollapse with
    | error => exact .shortage (h.outer.symm.trans inside) hresult
  | foreign hoperand hspecial =>
    cases hc with
    | operand hoperand' =>
      rw [hoperand] at hoperand'
      cases hoperand'
    | other =>
      rw [h.position]
      exact .foreign hoperand hspecial

theorem finish_parallel (hR : Congruence R) (h : Corresponds R s t) :
    Parallel R s.finish.result t.finish.result := by
  have hcollapse := h.collapse hR
  rw [finish, finish, Logged.result_bind, Logged.result_bind, h.outer]
  refine hcollapse.bind ?_
  intro left right hoperands
  cases t.outer with
  | cons => exact .error _
  | nil =>
    cases hoperands with
    | nil => exact .error _
    | cons hlast => exact .ok hlast

/-- What a step preserves, a whole text does, down to its end. -/
theorem outcome_parallel (hR : Congruence R) (htext : List.Forall₂ (Counterpart R) text other)
    (h : Corresponds R s t) : Parallel R (s.outcome text) (t.outcome other) := by
  induction htext generalizing s t with
  | nil => exact finish_parallel hR h
  | @cons c d text other hc _ ih =>
    rcases s.step_or_fault c with ⟨next, hstep⟩ | ⟨error, hfault⟩
    · obtain ⟨after, hstep', hnext⟩ := step_parallel hR h hc hstep
      rw [outcome_step hstep, outcome_step hstep']
      exact ih hnext
    · rw [outcome_fault hfault, outcome_fault (fault_parallel hR h hc hfault)]
      exact .error error

end Scan

end RegexMachine
