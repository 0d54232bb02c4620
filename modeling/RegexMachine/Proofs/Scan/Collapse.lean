import Mathlib.Tactic.SplitIfs
import RegexMachine.Scan.Level

namespace RegexMachine.Level

variable {level : List Operator} {operands out : List Automaton}

theorem applyConcat_eq_ok :
    applyConcat operands = .ok out ↔ ∃ right left below,
      operands = right :: left :: below ∧ out = left.concat right :: below := by
  unfold applyConcat
  split
  · rename_i right left below
    apply Iff.intro
    · intro h
      exact ⟨right, left, below, rfl, (Except.ok.inj h).symm⟩
    · intro h
      obtain ⟨_, _, _, heq, hout⟩ := h
      cases heq
      rw [hout]
  · rename_i short
    apply Iff.intro
    · intro h
      cases h
    · intro h
      obtain ⟨right, left, below, heq, -⟩ := h
      exact absurd heq (short right left below)

theorem applyUnion_eq_ok {joints : Nat} :
    applyUnion joints operands = .ok out ↔ ∃ right factors first below,
      operands = right :: (factors ++ first :: below) ∧ factors.length = joints ∧
      out = (factors.foldr (fun factor left => left.concat factor) first).union right :: below := by
  apply Iff.intro
  · intro h
    unfold applyUnion at h
    split at h
    · cases h
    · rename_i right rest
      split_ifs at h with hshort
      split at h
      · cases h
      · rename_i first below hdrop
        refine ⟨right, rest.take joints, first, below, ?_, ?_, (Except.ok.inj h).symm⟩
        · rw [← hdrop, List.take_append_drop]
        · exact List.length_take_of_le (Nat.le_of_not_lt hshort)
  · intro h
    obtain ⟨right, factors, first, below, hoperands, hjoints, hout⟩ := h
    subst hoperands hjoints hout
    simp [applyUnion]

theorem applyConcat_eq_error {error : CompileError} (h : applyConcat operands = .error error) :
    error = .missingOperand Operator.concat.symbol := by
  unfold applyConcat at h
  split at h
  · cases h
  · exact (Except.error.inj h).symm

theorem applyUnion_eq_error {joints : Nat} {error : CompileError}
    (h : applyUnion joints operands = .error error) :
    ∃ operator : Operator, error = .missingOperand operator.symbol := by
  unfold applyUnion at h
  split at h
  · exact ⟨.union, (Except.error.inj h).symm⟩
  · split_ifs at h
    · exact ⟨.concat, (Except.error.inj h).symm⟩
    · split at h
      · exact ⟨.union, (Except.error.inj h).symm⟩
      · cases h

theorem collapse_nil_eq_ok : (collapse [] operands).result = .ok out ↔ operands = out := by
  rw [collapse]
  exact Except.ok.injEq operands out ▸ Iff.rfl

theorem report_ok (operator : Operator) (operands : List Automaton) :
    (report operator operands).result = .ok () := by
  cases operands <;> rfl

theorem result_collapse_concat_cons (level : List Operator) (operands : List Automaton) :
    (collapse (.concat :: level) operands).result
      = applyConcat operands >>= fun applied => (collapse level applied).result := by
  rw [collapse, Logged.result_bind]
  simp only [Logged.result_ofExcept, Logged.result_bind_of_ok (report_ok _ _)]

theorem result_collapse_union_cons (level : List Operator) (operands : List Automaton) :
    (collapse (.union :: level) operands).result
      = applyUnion (level.takeWhile (· = .concat)).length operands >>= fun applied =>
        (collapse (level.dropWhile (· = .concat)) applied).result := by
  rw [collapse, Logged.result_bind]
  simp only [Logged.result_ofExcept, Logged.result_bind_of_ok (report_ok _ _)]

theorem result_collapse_concat (right left : Automaton) (below : List Automaton) :
    (collapse (.concat :: level) (right :: left :: below)).result
      = (collapse level (left.concat right :: below)).result := by
  have happly : applyConcat (right :: left :: below) = .ok (left.concat right :: below) := rfl
  rw [collapse, happly, Logged.result_bind_of_ok (Logged.result_ofExcept _),
    Logged.result_bind_of_ok (report_ok _ _)]

theorem result_collapse_union (right first : Automaton) (factors below : List Automaton)
    (hfactors : factors.length = (level.takeWhile (· = .concat)).length) :
    (collapse (.union :: level) (right :: (factors ++ first :: below))).result
      = (collapse (level.dropWhile (· = .concat))
        ((factors.foldr (fun factor left => left.concat factor) first).union right
          :: below)).result := by
  have happly := applyUnion_eq_ok.2 ⟨right, factors, first, below, rfl, hfactors, rfl⟩
  rw [collapse, happly, Logged.result_bind_of_ok (Logged.result_ofExcept _),
    Logged.result_bind_of_ok (report_ok _ _)]

theorem collapse_concat_eq_ok :
    (collapse (.concat :: level) operands).result = .ok out ↔ ∃ right left below,
      operands = right :: left :: below ∧
      (collapse level (left.concat right :: below)).result = .ok out := by
  apply Iff.intro
  · intro h
    rw [collapse, Logged.bind_eq_ok] at h
    obtain ⟨_, happly, h⟩ := h
    obtain ⟨right, left, below, rfl, rfl⟩ := applyConcat_eq_ok.1 happly
    rw [Logged.result_bind_of_ok (report_ok _ _)] at h
    exact ⟨right, left, below, rfl, h⟩
  · intro h
    obtain ⟨right, left, below, rfl, h⟩ := h
    rw [result_collapse_concat]
    exact h

theorem collapse_union_eq_ok :
    (collapse (.union :: level) operands).result = .ok out ↔ ∃ right factors first below,
      operands = right :: (factors ++ first :: below) ∧
      factors.length = (level.takeWhile (· = .concat)).length ∧
      (collapse (level.dropWhile (· = .concat))
        ((factors.foldr (fun factor left => left.concat factor) first).union right :: below)).result
          = .ok out := by
  apply Iff.intro
  · intro h
    rw [collapse, Logged.bind_eq_ok] at h
    obtain ⟨_, happly, h⟩ := h
    obtain ⟨right, factors, first, below, rfl, hfactors, rfl⟩ := applyUnion_eq_ok.1 happly
    rw [Logged.result_bind_of_ok (report_ok _ _)] at h
    exact ⟨right, factors, first, below, rfl, hfactors, h⟩
  · intro h
    obtain ⟨right, factors, first, below, rfl, hfactors, h⟩ := h
    rw [result_collapse_union right first factors below hfactors]
    exact h

/-- Only an operand can be missing. -/
theorem collapse_eq_error {error : CompileError}
    (h : (collapse level operands).result = .error error) :
    ∃ operator : Operator, error = .missingOperand operator.symbol := by
  induction level, operands using collapse.induct with
  | case1 operands =>
    rw [collapse] at h
    cases h
  | case2 level operands ih =>
    rw [collapse, Logged.bind_eq_error] at h
    rcases h with h | ⟨applied, -, h⟩
    · exact ⟨.concat, applyConcat_eq_error h⟩
    · rw [Logged.result_bind_of_ok (report_ok _ _)] at h
      exact ih applied h
  | case3 level operands ih =>
    rw [collapse, Logged.bind_eq_error] at h
    rcases h with h | ⟨applied, -, h⟩
    · exact applyUnion_eq_error h
    · rw [Logged.result_bind_of_ok (report_ok _ _)] at h
      exact ih applied h

theorem length_takeWhile_add_dropWhile (level : List Operator) :
    (level.takeWhile (· = .concat)).length + (level.dropWhile (· = .concat)).length
      = level.length := by
  rw [← List.length_append, List.takeWhile_append_dropWhile]

/-- Every operator of the level takes two operands and leaves one. -/
theorem length_collapse (h : (collapse level operands).result = .ok out) :
    out.length + level.length = operands.length := by
  induction level, operands using collapse.induct with
  | case1 operands =>
    obtain rfl := collapse_nil_eq_ok.1 h
    rfl
  | case2 level operands ih =>
    obtain ⟨right, left, below, rfl, hrest⟩ := collapse_concat_eq_ok.1 h
    have hlength := ih _ hrest
    simp only [List.length_cons] at hlength ⊢
    omega
  | case3 level operands ih =>
    obtain ⟨right, factors, first, below, rfl, hfactors, hrest⟩ := collapse_union_eq_ok.1 h
    have hlength := ih _ hrest
    have hlevel := length_takeWhile_add_dropWhile level
    simp only [List.length_cons, List.length_append] at hlength ⊢
    omega

/-- Operands never run out, since every operator leaves one. -/
theorem collapse_eq_nil_iff (h : (collapse level operands).result = .ok out) :
    out = [] ↔ operands = [] := by
  induction level, operands using collapse.induct with
  | case1 operands => rw [collapse_nil_eq_ok.1 h]
  | case2 level operands ih =>
    obtain ⟨right, left, below, rfl, hrest⟩ := collapse_concat_eq_ok.1 h
    simpa using ih _ hrest
  | case3 level operands ih =>
    obtain ⟨right, factors, first, below, rfl, -, hrest⟩ := collapse_union_eq_ok.1 h
    simpa using ih _ hrest

theorem forall_foldr {P : Automaton → Prop} (hconcat : ∀ {a b}, P a → P b → P (a.concat b))
    {factors : List Automaton} {first : Automaton} (hP : ∀ a ∈ factors, P a) (hfirst : P first) :
    P (factors.foldr (fun factor left => left.concat factor) first) := by
  induction factors with
  | nil => exact hfirst
  | cons factor factors ih =>
    obtain ⟨hfactor, hfactors⟩ := List.forall_mem_cons.1 hP
    exact hconcat (ih hfactors) hfactor

/-- What sequence and choice preserve holds of all operands if it did before. -/
theorem forall_collapse {P : Automaton → Prop} (hconcat : ∀ {a b}, P a → P b → P (a.concat b))
    (hunion : ∀ {a b}, P a → P b → P (a.union b)) (hP : ∀ a ∈ operands, P a)
    (h : (collapse level operands).result = .ok out) : ∀ a ∈ out, P a := by
  induction level, operands using collapse.induct with
  | case1 operands =>
    obtain rfl := collapse_nil_eq_ok.1 h
    exact hP
  | case2 level operands ih =>
    obtain ⟨right, left, below, rfl, hrest⟩ := collapse_concat_eq_ok.1 h
    simp only [List.forall_mem_cons] at hP
    obtain ⟨hright, hleft, hbelow⟩ := hP
    exact ih _ (List.forall_mem_cons.2 ⟨hconcat hleft hright, hbelow⟩) hrest
  | case3 level operands ih =>
    obtain ⟨right, factors, first, below, rfl, -, hrest⟩ := collapse_union_eq_ok.1 h
    simp only [List.forall_mem_cons, List.forall_mem_append] at hP
    obtain ⟨hright, hfactors, hfirst, hbelow⟩ := hP
    have hleft := forall_foldr hconcat hfactors hfirst
    exact ih _ (List.forall_mem_cons.2 ⟨hunion hleft hright, hbelow⟩) hrest

end RegexMachine.Level
