import RegexMachine.Proofs.Scan.Shortage
import RegexMachine.Proofs.Scan.Spaces

namespace RegexMachine

/-- Groups with nothing in them, each but the last around the next one. -/
def nestedGroups (n : Nat) : List Char := List.replicate n '(' ++ List.replicate n ')'

/-- The text closes `depth` open groups and puts nothing into them. The flag tells whether a group was
closed right before; another one behind it would be joined to it. -/
inductive Hollow : Bool → Nat → List Char → Prop
  | done {joins : Bool} : Hollow joins 0 []
  | opening {depth : Nat} {rest : List Char}
      (h : Hollow false (depth + 1) rest) : Hollow false depth ('(' :: rest)
  | closing {joins : Bool} {depth : Nat} {rest : List Char}
      (h : Hollow true depth rest) : Hollow joins (depth + 1) (')' :: rest)

namespace Hollow

theorem closings (joins : Bool) (depth : Nat) : Hollow joins depth (List.replicate depth ')') := by
  induction depth generalizing joins with
  | zero => exact .done
  | succ depth ih => exact .closing (ih true)

theorem openings (n depth : Nat) :
    Hollow false depth (List.replicate n '(' ++ List.replicate (n + depth) ')') := by
  induction n generalizing depth with
  | zero => simpa using closings false depth
  | succ n ih =>
    have hdepth : n + 1 + depth = n + (depth + 1) := by omega
    rw [hdepth]
    exact .opening (ih (depth + 1))

/-- Once a group is closed no other one can be opened. -/
theorem exists_openings {joins : Bool} {depth : Nat} {text : List Char} (h : Hollow joins depth text) :
    ∃ n, (joins = true → n = 0) ∧
      text = List.replicate n '(' ++ List.replicate (n + depth) ')' := by
  induction h with
  | done => exact ⟨0, by simp⟩
  | @opening depth rest _ ih =>
    obtain ⟨n, -, hrest⟩ := ih
    have hdepth : n + (depth + 1) = n + 1 + depth := by omega
    refine ⟨n + 1, by simp, ?_⟩
    rw [hrest, hdepth, List.replicate_succ, List.cons_append]
  | closing _ ih =>
    obtain ⟨n, hn, hrest⟩ := ih
    obtain rfl := hn rfl
    exact ⟨0, by simp, by simpa [List.replicate_succ] using hrest⟩

theorem iff_nestedGroups {text : List Char} :
    Hollow false 0 text ↔ ∃ n, text = nestedGroups n := by
  apply Iff.intro
  · intro h
    obtain ⟨n, -, htext⟩ := h.exists_openings
    exact ⟨n, htext⟩
  · intro h
    obtain ⟨n, rfl⟩ := h
    exact openings n 0

end Hollow

namespace Scan

variable {s t : Scan} {c : Char} {text expression : List Char}

/-- No operand is held, and no operator waits for one. -/
def Vacant (s : Scan) : Prop := s.operands = [] ∧ s.binary = 0

theorem vacant_empty : ({} : Scan).Vacant := ⟨rfl, rfl⟩

theorem Vacant.level (h : s.Vacant) : s.level = [] := by
  have hbinary := h.2
  simp only [binary, Nat.add_eq_zero_iff, List.length_eq_zero_iff] at hbinary
  exact hbinary.1

/-- A scan is vacant behind a character only if it was before, for what it holds it does not lose: a level
that is applied leaves an operand, unless there was none. -/
theorem vacant_step (h : Step s c t) :
    t.Vacant ↔ s.Vacant ∧ (c = ' ' ∨ c = '(' ∧ s.joins = false ∨ c = ')') := by
  cases h with
  | space => simp [Vacant, binary]
  | star top => simp [Vacant, top]
  | plus top => simp [Vacant, top]
  | opening =>
    have hjoined := s.length_joined
    cases hjoins : s.joins <;> simp [Vacant, binary, hjoined, hjoins]
  | closing inside collapsed =>
    have hnone := Level.collapse_eq_nil_iff collapsed
    have hlength := Level.length_collapse collapsed
    have hlevel : s.operands = [] → s.level.length = 0 := by
      intro hs
      rw [hnone.2 hs, hs] at hlength
      simpa using hlength
    simp only [Vacant, binary, inside, hnone, List.flatten_cons, List.length_append]
    apply Iff.intro
    · intro h
      obtain ⟨hs, hbinary⟩ := h
      have hwaiting := hlevel hs
      exact ⟨⟨hs, by omega⟩, by simp⟩
    · intro h
      obtain ⟨⟨hs, hbinary⟩, -⟩ := h
      exact ⟨hs, by omega⟩
  | bar => simp [Vacant, binary]
  | operand hc =>
    have hspace := isOperand_ne hc (d := ' ') rfl
    have hopen := isOperand_ne hc (d := '(') rfl
    have hclose := isOperand_ne hc (d := ')') rfl
    simp [Vacant, hspace, hopen, hclose]

/-- A text that leaves the scan vacant, and no group open, only closes what is open. -/
theorem hollow_of_readAll (h : (s.readAll text).result = .ok t) (ht : t.Vacant) (hdepth : t.depth = 0) :
    s.Vacant ∧ Hollow s.joins s.depth (withoutSpaces text) := by
  induction text generalizing s with
  | nil =>
    obtain rfl := readAll_nil_eq_ok.1 h
    rw [hdepth]
    exact ⟨ht, .done⟩
  | cons c text ih =>
    obtain ⟨next, hstep, hrest⟩ := readAll_cons_eq_ok.1 h
    obtain ⟨hnext, hhollow⟩ := ih hrest
    obtain ⟨hs, hc⟩ := (vacant_step hstep).1 hnext
    refine ⟨hs, ?_⟩
    rcases hc with rfl | ⟨rfl, hjoins⟩ | rfl
    · cases hstep with
      | space => exact hhollow
      | operand hc => cases hc
    · rw [hjoins]
      cases hstep with
      | opening => exact .opening hhollow
      | operand hc => cases hc
    · cases hstep with
      | closing inside =>
        rw [depth, inside]
        exact .closing hhollow
      | operand hc => cases hc

theorem readAll_of_hollow {joins : Bool} {depth : Nat} (h : Hollow joins depth text)
    (hs : s.Vacant) (hjoins : s.joins = joins) (hdepth : s.depth = depth) :
    ∃ t, (s.readAll text).result = .ok t ∧ t.Vacant ∧ t.depth = 0 := by
  induction h generalizing s with
  | done => exact ⟨s, readAll_nil_eq_ok.2 rfl, hs, hdepth⟩
  | opening _ ih =>
    have hstep : Step s '(' _ := .opening
    have hnext := (vacant_step hstep).2 ⟨hs, by simp [hjoins]⟩
    obtain ⟨t, hread, hend⟩ := ih hnext rfl (congrArg (· + 1) hdepth)
    exact ⟨t, readAll_cons_eq_ok.2 ⟨_, hstep, hread⟩, hend⟩
  | closing _ ih =>
    obtain ⟨level, outer, inside⟩ := depth_pos.1 (by omega : 0 < s.depth)
    have hcollapse : (Level.collapse s.level s.operands).result = .ok s.operands := by
      rw [hs.level]
      exact Level.collapse_nil_eq_ok.2 rfl
    have hstep : Step s ')' _ := .closing inside hcollapse
    have hnext := (vacant_step hstep).2 ⟨hs, by simp⟩
    have houter := depth_step hstep
    obtain ⟨t, hread, hend⟩ := ih hnext rfl (by simp at houter; omega)
    exact ⟨t, readAll_cons_eq_ok.2 ⟨_, hstep, hread⟩, hend⟩

/-- At the end nothing is missed but an operand, if there is none and none is asked for. -/
theorem finish_eq_emptyExpression_iff_vacant :
    s.finish.result = .error .emptyExpression ↔ s.Vacant ∧ s.depth = 0 := by
  rw [finish_eq_emptyExpression, Short, due_eq, List.length_map]
  apply Iff.intro
  · intro h
    obtain ⟨hshort, hdepth, hnone⟩ := h
    have houter := depth_eq_zero.1 hdepth
    refine ⟨⟨List.length_eq_zero_iff.1 hnone, ?_⟩, hdepth⟩
    simp only [binary, houter, List.flatten_nil, List.length_nil]
    omega
  · intro h
    obtain ⟨hvacant, hdepth⟩ := h
    simp [hvacant.level, hvacant.1, hdepth]

/-- No character is refused for want of an expression. -/
theorem readAll_ne_emptyExpression (s : Scan) (text : List Char) :
    (s.readAll text).result ≠ .error .emptyExpression := by
  induction text generalizing s with
  | nil => simp [readAll]
  | cons c text ih =>
    intro h
    rw [readAll, Logged.bind_eq_error] at h
    rcases h with hread | ⟨next, -, hrest⟩
    · generalize herror : CompileError.emptyExpression = error at hread
      cases read_eq_error.1 hread with
      | shortage _ failed =>
        obtain ⟨operator, hmissing⟩ := Level.collapse_eq_error failed
        rw [hmissing] at herror
        cases herror
      | _ => cases herror
    · exact ih next hrest

theorem compile_eq_emptyExpression :
    (compile expression).result = .error .emptyExpression ↔
      ∃ s, (({} : Scan).readAll expression).result = .ok s ∧ s.Vacant ∧ s.depth = 0 := by
  rw [result_compile, outcome, Logged.bind_eq_error]
  simp only [readAll_ne_emptyExpression, false_or, finish_eq_emptyExpression_iff_vacant]

theorem compile_eq_emptyExpression_iff_hollow :
    (compile expression).result = .error .emptyExpression ↔
      Hollow false 0 (withoutSpaces expression) := by
  rw [compile_eq_emptyExpression]
  apply Iff.intro
  · intro h
    obtain ⟨s, hread, hvacant, hdepth⟩ := h
    exact (hollow_of_readAll hread hvacant hdepth).2
  · intro h
    obtain ⟨t, hread, hvacant, hdepth⟩ := readAll_of_hollow h vacant_empty rfl rfl
    exact ⟨_, readAll_of_withoutSpaces (s := {}) (n := 0) hread, hvacant, hdepth⟩

end Scan

/-- An expression is found empty if and only if it is nested empty groups, of any number and with any
spaces. No other text without a letter or digit compiles either, but each of them fails for another
reason. -/
theorem emptyExpression_iff_nested :
    (∀ expression, (compile expression).result = .error .emptyExpression ↔
      ∃ n, withoutSpaces expression = nestedGroups n) ∧
    ∀ expression, (∀ c ∈ expression, isOperand c = false) →
      (∀ n, withoutSpaces expression ≠ nestedGroups n) →
      ∃ error, (compile expression).result = .error error ∧ error ≠ .emptyExpression := by
  have hempty (expression : List Char) : (compile expression).result = .error .emptyExpression ↔
      ∃ n, withoutSpaces expression = nestedGroups n :=
    Scan.compile_eq_emptyExpression_iff_hollow.trans Hollow.iff_nestedGroups
  refine ⟨hempty, ?_⟩
  intro expression hnone hnested
  cases hcompile : (compile expression).result with
  | ok a =>
    obtain ⟨s, hread, hfinish⟩ := Scan.compile_eq_ok.1 hcompile
    have hsome := (Scan.finish_succeeds_iff.1 ⟨a, hfinish⟩).2.2
    have hoperands := (Scan.operands_readAll hread).2 ⟨rfl, hnone⟩
    simp [hoperands] at hsome
  | error error =>
    refine ⟨error, rfl, ?_⟩
    intro herror
    obtain ⟨n, hn⟩ := (hempty expression).1 (herror ▸ hcompile)
    exact hnested n hn

/-- Two empty groups side by side are joined, and a bar in a group wants its operands. -/
theorem emptyExpression_nested_spaced :
    (compile "( () )".toList).result = .error .emptyExpression ∧
    (∃ error, (compile "()()".toList).result = .error error ∧ error ≠ .emptyExpression) ∧
    ∃ error, (compile "(|)".toList).result = .error error ∧ error ≠ .emptyExpression := by
  obtain ⟨empty, other⟩ := emptyExpression_iff_nested
  have hnone {text : List Char} (h : text.all isSpecial = true) :
      ∀ c ∈ text, isOperand c = false := fun c hc =>
    isOperand_eq_false_of_isSpecial (List.all_eq_true.1 h c hc)
  refine ⟨(empty _).2 ⟨2, by decide⟩, other _ (hnone (by decide)) ?_, other _ (hnone (by decide)) ?_⟩
  · intro n h
    have hlength : 4 = n + n := by simpa [nestedGroups, withoutSpaces] using congrArg List.length h
    obtain rfl : n = 2 := by omega
    revert h
    decide
  · intro n h
    have hlength : 3 = n + n := by simpa [nestedGroups, withoutSpaces] using congrArg List.length h
    omega

end RegexMachine
