import Mathlib.Tactic.SplitIfs
import RegexMachine.Scan.Basic

namespace RegexMachine.Scan

inductive Step (s : Scan) : Char → Scan → Prop
  | space : Step s ' ' { s with position := s.position + 1 }
  | star {last : Automaton} {below : List Automaton} (top : s.operands = last :: below) :
      Step s '*' { s with
        operands := last.star :: below, joins := true, position := s.position + 1 }
  | plus {last : Automaton} {below : List Automaton} (top : s.operands = last :: below) :
      Step s '+' { s with
        operands := last.plus :: below, joins := true, position := s.position + 1 }
  | opening : Step s '(' { s with
        level := [], outer := s.joined :: s.outer, joins := false, position := s.position + 1 }
  | closing {level : List Operator} {outer : List (List Operator)} {operands : List Automaton}
      (inside : s.outer = level :: outer)
      (collapsed : (Level.collapse s.level s.operands).result = .ok operands) :
      Step s ')' { operands, level, outer, joins := true, position := s.position + 1 }
  | bar : Step s '|' { s with
        level := .union :: s.level, joins := false, position := s.position + 1 }
  | operand {c : Char} (hc : isOperand c = true) : Step s c { s with
        operands := .literal c :: s.operands, level := s.joined, joins := true,
        position := s.position + 1 }

variable {s t : Scan} {c : Char}

theorem repeatLast_eq_ok {operator : Char} {f : Automaton → Automaton} :
    s.repeatLast operator f = .ok t ↔ ∃ last below, s.operands = last :: below ∧
      t = { s with operands := f last :: below, joins := true } := by
  unfold repeatLast
  split
  · rename_i none
    simp [none]
  · rename_i last below top
    rw [top]
    apply Iff.intro
    · intro h
      exact ⟨last, below, rfl, (Except.ok.inj h).symm⟩
    · intro h
      obtain ⟨_, _, heq, ht⟩ := h
      cases heq
      rw [ht]

theorem step_of_read (h : (s.read c).result = .ok t) : Step s c t := by
  unfold read at h
  split_ifs at h with hspace hstar hplus hopen hclose hbar hoperand
  · cases h
    exact hspace ▸ .space
  · obtain ⟨last, below, top, rfl⟩ := repeatLast_eq_ok.1 h
    exact hstar ▸ .star top
  · obtain ⟨last, below, top, rfl⟩ := repeatLast_eq_ok.1 h
    exact hplus ▸ .plus top
  · cases h
    exact hopen ▸ .opening
  · subst hclose
    split at h
    · cases h
    · rename_i level outer inside
      obtain ⟨operands, collapsed, h⟩ := Logged.bind_eq_ok.1 h
      cases h
      exact .closing inside collapsed
  · cases h
    exact hbar ▸ .bar
  · cases h
    exact .operand hoperand
  · cases h

theorem read_of_step (h : Step s c t) : (s.read c).result = .ok t := by
  cases h with
  | space => rfl
  | star top => exact repeatLast_eq_ok.2 ⟨_, _, top, rfl⟩
  | plus top => exact repeatLast_eq_ok.2 ⟨_, _, top, rfl⟩
  | opening => rfl
  | closing inside collapsed =>
    simp only [read, inside]
    exact Logged.bind_eq_ok.2 ⟨_, collapsed, rfl⟩
  | bar => rfl
  | operand hc =>
    have hspace : c ≠ ' ' := isOperand_ne hc (by decide)
    have hstar : c ≠ '*' := isOperand_ne hc (by decide)
    have hplus : c ≠ '+' := isOperand_ne hc (by decide)
    have hopen : c ≠ '(' := isOperand_ne hc (by decide)
    have hclose : c ≠ ')' := isOperand_ne hc (by decide)
    have hbar : c ≠ '|' := isOperand_ne hc (by decide)
    simp [read, hspace, hstar, hplus, hopen, hclose, hbar, hc]

/-- The cases of `Step` are all the ways in which a character is read. -/
theorem read_eq_ok : (s.read c).result = .ok t ↔ Step s c t := ⟨step_of_read, read_of_step⟩

theorem step_unique {u : Scan} (h : Step s c t) (k : Step s c u) : t = u := by
  have hread := read_eq_ok.2 h
  rw [read_eq_ok.2 k] at hread
  exact (Except.ok.inj hread).symm

theorem readAll_nil_eq_ok : (s.readAll []).result = .ok t ↔ s = t := Except.ok.injEq s t ▸ Iff.rfl

theorem readAll_cons_eq_ok {rest : List Char} :
    (s.readAll (c :: rest)).result = .ok t ↔
      ∃ next, Step s c next ∧ (next.readAll rest).result = .ok t := by
  rw [readAll, Logged.bind_eq_ok]
  simp only [read_eq_ok]

theorem readAll_append_eq_ok {first second : List Char} :
    (s.readAll (first ++ second)).result = .ok t ↔
      ∃ mid, (s.readAll first).result = .ok mid ∧ (mid.readAll second).result = .ok t := by
  induction first generalizing s with
  | nil => simp [readAll_nil_eq_ok]
  | cons c first ih =>
    rw [List.cons_append, readAll_cons_eq_ok]
    simp only [ih, readAll_cons_eq_ok]
    apply Iff.intro
    · intro h
      obtain ⟨next, hstep, mid, hfirst, hsecond⟩ := h
      exact ⟨mid, ⟨next, hstep, hfirst⟩, hsecond⟩
    · intro h
      obtain ⟨mid, ⟨next, hstep, hfirst⟩, hsecond⟩ := h
      exact ⟨next, hstep, mid, hfirst, hsecond⟩

/-- What every successful step preserves holds after every successful run. -/
theorem invariant_of_readAll {P : Scan → Prop} (step : ∀ {s c t}, Step s c t → P s → P t)
    {text : List Char} (h : (s.readAll text).result = .ok t) (hs : P s) : P t := by
  induction text generalizing s with
  | nil => exact readAll_nil_eq_ok.1 h ▸ hs
  | cons c text ih =>
    obtain ⟨next, hstep, hrest⟩ := readAll_cons_eq_ok.1 h
    exact ih hrest (step hstep hs)

theorem position_step (h : Step s c t) : t.position = s.position + 1 := by
  cases h <;> rfl

theorem position_readAll {text : List Char} (h : (s.readAll text).result = .ok t) :
    t.position = s.position + text.length := by
  induction text generalizing s with
  | nil => rw [readAll_nil_eq_ok.1 h]; rfl
  | cons c text ih =>
    obtain ⟨next, hstep, hrest⟩ := readAll_cons_eq_ok.1 h
    have hnext := position_step hstep
    have ht := ih hrest
    rw [List.length_cons]
    omega

/-- An expression ends well outside all groups with some operand left. -/
theorem finish_eq_ok {a : Automaton} :
    s.finish.result = .ok a ↔
      s.outer = [] ∧ ∃ below, (Level.collapse s.level s.operands).result = .ok (a :: below) := by
  rw [finish, Logged.bind_eq_ok]
  apply Iff.intro
  · intro h
    obtain ⟨operands, collapsed, h⟩ := h
    split at h
    · cases h
    · cases h
    · rename_i last below houter
      cases h
      exact ⟨houter, below, collapsed⟩
  · intro h
    obtain ⟨houter, below, collapsed⟩ := h
    refine ⟨a :: below, collapsed, ?_⟩
    rw [houter]
    rfl

theorem compile_eq_ok {expression : List Char} {a : Automaton} :
    (compile expression).result = .ok a ↔
      ∃ s, (({} : Scan).readAll expression).result = .ok s ∧ s.finish.result = .ok a := by
  rw [compile, Logged.bind_eq_ok]
  apply Iff.intro
  · intro h
    obtain ⟨s, hs, h⟩ := h
    obtain ⟨b, hb, h⟩ := Logged.bind_eq_ok.1 h
    cases h
    exact ⟨s, hs, hb⟩
  · intro h
    obtain ⟨s, hs, ha⟩ := h
    exact ⟨s, hs, Logged.bind_eq_ok.2 ⟨a, ha, rfl⟩⟩

end RegexMachine.Scan
