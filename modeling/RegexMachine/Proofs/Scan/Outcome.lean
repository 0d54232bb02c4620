import RegexMachine.Proofs.Scan.Fault

namespace RegexMachine.Scan

/-- Reads a text and ends. -/
def outcome (s : Scan) (text : List Char) : Except CompileError Automaton :=
  (s.readAll text >>= finish).result

variable {s t : Scan} {c : Char} {error : CompileError} {text : List Char}

theorem outcome_nil (s : Scan) : s.outcome [] = s.finish.result := rfl

theorem outcome_step (h : Step s c t) (text : List Char) :
    s.outcome (c :: text) = t.outcome text := by
  have hread := read_eq_ok.2 h
  rw [outcome, readAll, Logged.result_bind, Logged.result_bind_of_ok hread, ← Logged.result_bind,
    outcome]

theorem outcome_fault (h : Fault s c error) (text : List Char) :
    s.outcome (c :: text) = .error error := by
  have hread := read_eq_error.2 h
  rw [outcome, readAll, Logged.bind_eq_error, Logged.bind_eq_error]
  exact .inl (.inl hread)

/-- A character is either read or refused. -/
theorem step_or_fault (s : Scan) (c : Char) : (∃ t, Step s c t) ∨ ∃ error, Fault s c error := by
  cases hread : (s.read c).result with
  | ok t => exact .inl ⟨t, read_eq_ok.1 hread⟩
  | error error => exact .inr ⟨error, read_eq_error.1 hread⟩

theorem outcome_append_of_ok (h : (s.readAll text).result = .ok t) (rest : List Char) :
    s.outcome (text ++ rest) = t.outcome rest := by
  induction text generalizing s with
  | nil => rw [readAll_nil_eq_ok.1 h, List.nil_append]
  | cons c text ih =>
    obtain ⟨next, hstep, hrest⟩ := readAll_cons_eq_ok.1 h
    rw [List.cons_append, outcome_step hstep, ih hrest]

theorem outcome_append_of_error (h : (s.readAll text).result = .error error) (rest : List Char) :
    s.outcome (text ++ rest) = .error error := by
  induction text generalizing s with
  | nil => cases h
  | cons c text ih =>
    rw [List.cons_append]
    rw [readAll, Logged.bind_eq_error] at h
    rcases h with hread | ⟨next, hread, hrest⟩
    · exact outcome_fault (read_eq_error.1 hread) _
    · rw [outcome_step (read_eq_ok.1 hread), ih hrest]

theorem result_compile (expression : List Char) :
    (compile expression).result = ({} : Scan).outcome expression := by
  have hrecord : ∀ a : Automaton, (do
      .emit (.compiled expression a.states a.edges.length)
      pure a : Logged CompileError Automaton).result = .ok a := fun _ => rfl
  simp only [compile, outcome, Logged.result_bind (({} : Scan).readAll expression),
    Logged.result_bind (Scan.finish _), hrecord]
  congr 1
  funext s
  cases s.finish.result <;> rfl

end RegexMachine.Scan
