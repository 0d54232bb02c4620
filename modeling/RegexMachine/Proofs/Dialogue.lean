import RegexMachine.Proofs.Compilation
import RegexMachine.Proofs.Diagnosis
import RegexMachine.Proofs.Text.Lines
import RegexMachine.Session.Basic

namespace RegexMachine

namespace Session

/-- A dialogue prepares an expression as a pattern is built, and fails where that fails. -/
theorem prepare_eq (expression : String) :
    prepare expression = (Regex.build expression).result.map Regex.automaton := by
  cases hbuild : (Regex.build expression).result with
  | ok r =>
    obtain ⟨hcheck, a, hcompile, hr⟩ := Regex.build_eq_ok.1 hbuild
    rw [prepare, hcheck, hcompile, hr]
    rfl
  | error error =>
    rcases Regex.build_eq_error.1 hbuild with ⟨fault, hcheck, herror⟩ |
      ⟨hcheck, fault, hcompile, herror⟩
    · rw [prepare, hcheck, herror]
      rfl
    · rw [prepare, hcheck, hcompile, herror]
      rfl

/-- The lines before the first one that cannot be read. -/
def readable : List (Option String) → List String
  | some line :: rest => line :: readable rest
  | _ => []

theorem resume_failed (output : String) (lines : List (Option String)) :
    resume output failed lines = ⟨failure, output⟩ := by
  cases lines <;> rfl

theorem resume_answering (output : String) (simulation : Simulation) (lines : List (Option String)) :
    resume output (answering simulation) lines =
      ⟨if none ∈ lines then failure else success, output ++ String.join
        ((readable lines).map fun line => answer (simulation.accepts line.toList))⟩ := by
  induction lines generalizing output with
  | nil => simp [resume, readable]
  | cons line rest ih =>
    cases line with
    | none => simp [resume, next, resume_failed, readable]
    | some line => simp [resume, next, ih, readable, String.append_assoc]

theorem resume_invalid (output : String) (options : Options) {pattern : String} {error : BuildError}
    (h : (Regex.build pattern).result = .error error) (rest : List (Option String)) :
    resume output (awaiting options) (some pattern :: rest)
      = ⟨failure, output ++ "Invalid Expression\n"⟩ := by
  have hprepare : prepare pattern = .error error := by
    rw [prepare_eq, h]
    rfl
  rw [resume, next, hprepare]
  · exact resume_failed _ _
  · simp

theorem resume_ready (output : String) (options : Options) {pattern : String} {r : Regex}
    (h : (Regex.build pattern).result = .ok r) (rest : List (Option String)) :
    resume output (awaiting options) (some pattern :: rest) =
      ⟨if none ∈ rest then failure else success,
        output ++ ((if options.verbose then r.automaton.description else "") ++ "ready\n") ++
          String.join ((readable rest).map fun line => answer (r.isMatch line))⟩ := by
  have hprepare : prepare pattern = .ok r.automaton := by
    rw [prepare_eq, h]
    rfl
  rw [resume, next, hprepare]
  · exact resume_answering _ _ _
  · simp

theorem command_eq {arguments : List String} (input : List UInt8)
    (h : arguments = [] ∨ arguments = ["-v"] ∨ arguments = ["--verbose"]) :
    command arguments input = resume prompt (awaiting ⟨!arguments.isEmpty⟩)
      ((Text.lines input).map Text.decode) := by
  rcases h with rfl | rfl | rfl
  · rfl
  · rfl
  · rfl

/-- A whole dialogue, for any input and with or without the automaton shown. Its first line is taken
for a pattern: if that line cannot be read or cannot be built, the dialogue fails there. If it can, each
further line up to the first that cannot be read is answered as the regular expression answers it, and
the dialogue fails if there was such a line. -/
theorem dialogue_agrees {arguments : List String} (input : List UInt8)
    (harguments : arguments = [] ∨ arguments = ["-v"] ∨ arguments = ["--verbose"]) :
    let lines := (Text.lines input).map Text.decode
    let transcript := command arguments input
    (∀ cut, Text.Cut input cut ↔ cut = Text.lines input) ∧
    (lines = [] → transcript = ⟨0, "Enter the regular expression:\n"⟩) ∧
    (∀ rest, lines = none :: rest → transcript = ⟨1, "Enter the regular expression:\n"⟩) ∧
    ∀ pattern rest, lines = some pattern :: rest →
      (∀ error, (Regex.build pattern).result = .error error →
        transcript = ⟨1, "Enter the regular expression:\n" ++ "Invalid Expression\n"⟩) ∧
      ∀ r, (Regex.build pattern).result = .ok r →
        transcript = ⟨if none ∈ rest then 1 else 0,
          "Enter the regular expression:\n" ++
            ((if arguments = [] then "" else r.automaton.description) ++ "ready\n") ++
            String.join ((readable rest).map fun line =>
              if r.isMatch line then "true\n" else "false\n")⟩ := by
  have hcommand := command_eq input harguments
  refine ⟨fun cut => Text.cut_iff, ?_, ?_, ?_⟩
  · intro hnone
    rw [hcommand, hnone]
    rfl
  · intro rest hunreadable
    rw [hcommand, hunreadable]
    exact resume_failed _ rest
  · intro pattern rest hfirst
    rw [hcommand, hfirst]
    apply And.intro
    · intro error hbuild
      exact resume_invalid prompt _ hbuild rest
    · intro r hbuild
      rw [resume_ready prompt _ hbuild rest]
      have hverbose : (if (!arguments.isEmpty) = true then r.automaton.description else "")
          = if arguments = [] then "" else r.automaton.description := by
        cases arguments <;> rfl
      rw [hverbose]
      rfl

/-- The line that cannot be read ends the dialogue, and the one behind it is not answered. -/
theorem dialogue_agrees_until_unreadable :
    (["-v"] = [] ∨ ["-v"] = ["-v"] ∨ ["-v"] = ["--verbose"]) ∧
    command ["-v"] [97, 10, 97, 13, 10, 98, 10, 255, 10, 97] =
      ⟨1, "Enter the regular expression:\n" ++ ("Start state: 0\nAccept state: 1\nStates: 2\n" ++
        "(0, a, 1)\n" ++ "ready\n") ++ "true\nfalse\n"⟩ := by
  have harguments : ["-v"] = [] ∨ ["-v"] = ["-v"] ∨ ["-v"] = ["--verbose"] := .inr (.inl rfl)
  have hlines : (Text.lines [97, 10, 97, 13, 10, 98, 10, 255, 10, 97]).map Text.decode
      = [some "a", some "a", some "b", none, some "a"] := rfl
  have hcompile : (compile "a".toList).result = .ok (.literal 'a') := by decide +kernel
  have hbuild := Regex.build_eq_ok.2 ⟨by decide, _, hcompile, rfl⟩
  obtain ⟨-, -, -, hfirst⟩ := dialogue_agrees [97, 10, 97, 13, 10, 98, 10, 255, 10, 97] harguments
  have htrue : (Regex.mk "a" (.literal 'a')).isMatch "a" = true := by decide +kernel
  have hfalse : (Regex.mk "a" (.literal 'a')).isMatch "b" = false := by decide +kernel
  have hdump : (Automaton.literal 'a').description
      = "Start state: 0\nAccept state: 1\nStates: 2\n" ++ "(0, a, 1)\n" := by decide +kernel
  refine ⟨harguments, ((hfirst _ _ hlines).2 _ hbuild).trans ?_⟩
  simp [readable, htrue, hfalse, hdump, String.join]

end Session

end RegexMachine
