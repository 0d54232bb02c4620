import RegexMachine.Proofs.Compilation
import RegexMachine.Proofs.Diagnosis

namespace RegexMachine

variable {text : List Char}

/-- Where the character stands in `text` that is at place `n` when all spaces are left out. -/
def place : List Char → Nat → Nat
  | [], n => n
  | c :: rest, n =>
    if c = ' ' then place rest n + 1
    else
      match n with
      | 0 => 0
      | n + 1 => place rest n + 1

/-- The character at `index` is no space, and `n` characters before it are none. -/
def NthMark (text : List Char) (n index : Nat) : Prop :=
  (∃ c, text[index]? = some c ∧ c ≠ ' ') ∧ (withoutSpaces (text.take index)).length = n

theorem place_space (text : List Char) : place (' ' :: text) = (· + 1) ∘ place text := by
  funext n
  simp [place]

theorem place_zero {c : Char} (hc : c ≠ ' ') : place (c :: text) 0 = 0 := by
  simp [place, hc]

theorem place_succ {c : Char} (hc : c ≠ ' ') (text : List Char) :
    place (c :: text) ∘ (· + 1) = (· + 1) ∘ place text := by
  funext n
  simp [place, hc]

theorem nthMark_place {n : Nat} (hn : n < (withoutSpaces text).length) :
    NthMark text n (place text n) := by
  induction text generalizing n with
  | nil => simp [withoutSpaces] at hn
  | cons c text ih =>
    by_cases hc : c = ' '
    · subst hc
      rw [withoutSpaces_space] at hn
      have hrest := ih hn
      simpa [NthMark, place_space, withoutSpaces_space] using hrest
    · cases n with
      | zero => simp [NthMark, place_zero hc, hc, withoutSpaces]
      | succ n =>
        rw [withoutSpaces_cons hc, List.length_cons, Nat.add_lt_add_iff_right] at hn
        have hrest := ih hn
        have hplace : place (c :: text) (n + 1) = place text n + 1 := congrFun (place_succ hc text) n
        simpa [NthMark, hplace, withoutSpaces_cons hc] using hrest

namespace Scan

/-- A scan that begins at place 0 comes to the same with the spaces as without them. -/
theorem outcome_withoutSpaces (s : Scan) (text : List Char) :
    (s.atPosition 0).outcome text
      = ((s.atPosition 0).outcome (withoutSpaces text)).mapError (·.relocate (place text)) := by
  -- every step begins the rest one place later, so the rest is looked at from place 0 again
  have later (next : Scan) (rest : List Char) : (next.atPosition 1).outcome rest
      = ((next.atPosition 0).outcome rest).mapError (·.relocate (· + 1)) :=
    outcome_atPosition (next.atPosition 0) rest 1
  induction text generalizing s with
  | nil =>
    change (s.atPosition 0).finish.result = (s.atPosition 0).finish.result.mapError _
    cases hfinish : (s.atPosition 0).finish.result with
    | ok a => rfl
    | error error =>
      have hself : error.relocate (place []) = error := by
        apply CompileError.relocate_eq_self
        simp [position_finish hfinish]
      exact congrArg Except.error hself.symm
  | cons c text ih =>
    by_cases hc : c = ' '
    · subst hc
      have hstep : Step (s.atPosition 0) ' ' (s.atPosition 1) := .space
      rw [outcome_step hstep, later, ih, CompileError.mapError_relocate, withoutSpaces_space,
        place_space]
    · rw [withoutSpaces_cons hc]
      rcases (s.atPosition 0).step_or_fault c with ⟨next, hstep⟩ | ⟨error, hfault⟩
      · have hnext := step_atPosition hstep 0
        have hrest : Step (s.atPosition 0) c (next.atPosition 1) := hnext
        rw [outcome_step hrest, outcome_step hrest, later, later, ih,
          CompileError.mapError_relocate, CompileError.mapError_relocate, place_succ hc]
      · have hself : error.relocate (place (c :: text)) = error := by
          apply CompileError.relocate_eq_self
          intro position hposition
          have hhere : position = 0 := position_fault hfault hposition
          rw [hhere, place_zero hc]
        rw [outcome_fault hfault, outcome_fault hfault]
        exact congrArg Except.error hself.symm

end Scan

namespace SyntaxError

/-- The place that a fault names, if it names one. -/
def position? : SyntaxError → Option Nat
  | invalidChar _ position => some position
  | unexpectedCloseParen position => some position
  | _ => none

/-- The same fault, with the place that it names moved. -/
def relocate (f : Nat → Nat) : SyntaxError → SyntaxError
  | invalidChar c position => invalidChar c (f position)
  | unexpectedCloseParen position => unexpectedCloseParen (f position)
  | error => error

theorem mapError_relocate (f g : Nat → Nat) (x : Except SyntaxError Unit) :
    (x.mapError (·.relocate f)).mapError (·.relocate g) = x.mapError (·.relocate (g ∘ f)) := by
  cases x with
  | ok => rfl
  | error error => cases error <;> rfl

/-- A character is passed over or refused, whatever stands before and behind it; only a refusal names
the place. -/
theorem inside_cons (c : Char) (depth : Nat) :
    (∃ next, ∀ position text, inside position depth (c :: text) = inside (position + 1) next text) ∨
    ∃ fault : Nat → SyntaxError,
      (∀ position, (fault position).position? = some position) ∧
      (∀ f position, (fault position).relocate f = fault (f position)) ∧
      ∀ position text, inside position depth (c :: text) = .error (fault position) := by
  by_cases hopen : c = '('
  · subst hopen
    exact .inl ⟨depth + 1, fun position text => inside_opening position depth⟩
  by_cases hclose : c = ')'
  · subst hclose
    cases depth with
    | zero =>
      right
      refine ⟨unexpectedCloseParen, fun _ => rfl, fun _ _ => rfl, ?_⟩
      exact fun position text => inside_unbalanced position
    | succ depth => exact .inl ⟨depth, fun position text => inside_closing position depth⟩
  by_cases hc : (isOperand c || isSpecial c) = true
  · exact .inl ⟨depth, fun position text => inside_other position depth hopen hclose hc⟩
  · simp only [Bool.or_eq_true, not_or, Bool.not_eq_true] at hc
    obtain ⟨hoperand, hspecial⟩ := hc
    right
    refine ⟨invalidChar c, fun _ => rfl, fun _ _ => rfl, ?_⟩
    exact fun position text => inside_foreign position depth hoperand hspecial

theorem inside_later (depth : Nat) (text : List Char) (position : Nat) :
    inside (position + 1) depth text = (inside position depth text).mapError (·.relocate (· + 1)) := by
  induction text generalizing depth position with
  | nil => cases depth <;> rfl
  | cons c text ih =>
    rcases inside_cons c depth with ⟨next, hnext⟩ | ⟨fault, -, hmoved, hfault⟩
    · rw [hnext, hnext, ih]
    · have hlater : fault (position + 1) = (fault position).relocate (· + 1) :=
        (hmoved (· + 1) position).symm
      rw [hfault, hfault]
      exact congrArg Except.error hlater

theorem inside_withoutSpaces (depth : Nat) (text : List Char) :
    inside 0 depth text
      = (inside 0 depth (withoutSpaces text)).mapError (·.relocate (place text)) := by
  induction text generalizing depth with
  | nil => cases depth <;> rfl
  | cons c text ih =>
    by_cases hc : c = ' '
    · subst hc
      rw [inside_other 0 depth (by decide) (by decide) (by decide), inside_later, ih,
        mapError_relocate, withoutSpaces_space, place_space]
    · rw [withoutSpaces_cons hc]
      rcases inside_cons c depth with ⟨next, hnext⟩ | ⟨fault, -, hmoved, hfault⟩
      · rw [hnext, hnext, inside_later, inside_later, ih, mapError_relocate, mapError_relocate,
          place_succ hc]
      · rw [hfault, hfault]
        have hself : fault 0 = (fault 0).relocate (place (c :: text)) := by
          rw [hmoved, place_zero hc]
        exact congrArg Except.error hself

/-- A fault names a place within the text. -/
theorem position_inside {position depth index : Nat} {error : SyntaxError}
    (h : inside position depth text = .error error) (hindex : error.position? = some index) :
    position ≤ index ∧ index < position + text.length := by
  induction text generalizing position depth with
  | nil =>
    cases depth with
    | zero => cases h
    | succ depth =>
      cases h
      cases hindex
  | cons c text ih =>
    rw [List.length_cons]
    rcases inside_cons c depth with ⟨next, hnext⟩ | ⟨fault, hplace, -, hfault⟩
    · rw [hnext] at h
      have hrest := ih h
      omega
    · rw [hfault, Except.error.injEq] at h
      subst h
      rw [hplace, Option.some.injEq] at hindex
      omega

end SyntaxError

theorem checkAdmissible_withoutSpaces {text : List Char} (hspace : text.head? ≠ some ' ') :
    checkAdmissible text
      = (checkAdmissible (withoutSpaces text)).mapError (·.relocate (place text)) := by
  cases text with
  | nil => rfl
  | cons c text =>
    have hc : c ≠ ' ' := by simpa using hspace
    have hinside := SyntaxError.inside_withoutSpaces 0 (c :: text)
    rw [withoutSpaces_cons hc] at hinside ⊢
    by_cases hstar : c = '*'
    · subst hstar
      rfl
    · simpa only [checkAdmissible, if_neg hstar, if_neg hc] using hinside

theorem position_checkAdmissible {text : List Char} {error : SyntaxError} {index : Nat}
    (h : checkAdmissible text = .error error) (hindex : error.position? = some index) :
    index < text.length := by
  cases text with
  | nil =>
    cases h
    cases hindex
  | cons c text =>
    simp only [checkAdmissible] at h
    split_ifs at h
    · cases h
      cases hindex
    · cases h
      cases hindex
    · simpa using (SyntaxError.position_inside h hindex).2

namespace BuildError

/-- The place that the fault of a pattern names, if it names one. -/
def position? : BuildError → Option Nat
  | inadmissible error => error.position?
  | uncompilable error => error.position?

/-- The same fault of a pattern, with the place that it names moved. -/
def relocate (f : Nat → Nat) : BuildError → BuildError
  | inadmissible error => inadmissible (error.relocate f)
  | uncompilable error => uncompilable (error.relocate f)

end BuildError

/-- What a pattern is built to is what its text compiles to once it is checked. -/
theorem Regex.automaton_build (pattern : String) :
    (build pattern).result.map automaton =
      (checkAdmissible pattern.toList).mapError .inadmissible >>= fun _ =>
        (compile pattern.toList).result.mapError .uncompilable := by
  cases hcheck : checkAdmissible pattern.toList with
  | error error =>
    rw [build_eq_error.2 (.inl ⟨error, hcheck, rfl⟩)]
    rfl
  | ok _ =>
    cases hcompile : (compile pattern.toList).result with
    | error error =>
      rw [build_eq_error.2 (.inr ⟨hcheck, error, hcompile, rfl⟩)]
      rfl
    | ok a =>
      rw [build_eq_ok.2 ⟨hcheck, a, hcompile, rfl⟩]
      rfl

theorem Regex.build_withoutSpaces {text : List Char} (hspace : text.head? ≠ some ' ') :
    (build (.ofList text)).result.map automaton = ((build (.ofList (withoutSpaces text))).result.map
      automaton).mapError (·.relocate (place text)) := by
  have hcompile := Scan.outcome_withoutSpaces {} text
  change ({} : Scan).outcome _ = (({} : Scan).outcome _).mapError _ at hcompile
  rw [← Scan.result_compile, ← Scan.result_compile] at hcompile
  rw [automaton_build, automaton_build, String.toList_ofList, String.toList_ofList,
    checkAdmissible_withoutSpaces hspace, hcompile]
  cases checkAdmissible (withoutSpaces text) with
  | error error => rfl
  | ok _ => cases (compile (withoutSpaces text)).result <;> rfl

theorem Regex.position_build {pattern : String} {error : BuildError} {index : Nat}
    (h : (build pattern).result = .error error) (hindex : error.position? = some index) :
    index < pattern.toList.length := by
  rcases build_eq_error.1 h with ⟨fault, hcheck, rfl⟩ | ⟨-, fault, hcompile, rfl⟩
  · exact position_checkAdmissible hcheck hindex
  · rw [Scan.result_compile] at hcompile
    simpa using (Scan.position_outcome hcompile hindex).2

/-- The results with the spaces of `text` and without them are the same, but for the place that a fault
names: it is the place of the same character. -/
def Respaced {ε α : Type} (relocate : (Nat → Nat) → ε → ε) (position? : ε → Option Nat)
    (text : List Char) (spaced packed : Except ε α) : Prop :=
  spaced = packed.mapError (relocate (place text)) ∧
    ∀ error index, packed = .error error → position? error = some index →
      NthMark text index (place text index)

/-- With its spaces or without them, a text compiles to the same automaton or fails for the same
reason at the same character. Unless a space comes first, so does the admission check of the text, and
so does the building of the pattern. -/
theorem spaces_move_faults (text : List Char) :
    Respaced CompileError.relocate CompileError.position? text
      (compile text).result (compile (withoutSpaces text)).result ∧
    (text.head? ≠ some ' ' →
      Respaced SyntaxError.relocate SyntaxError.position? text
        (checkAdmissible text) (checkAdmissible (withoutSpaces text)) ∧
      Respaced BuildError.relocate BuildError.position? text
        ((Regex.build (.ofList text)).result.map Regex.automaton)
        ((Regex.build (.ofList (withoutSpaces text))).result.map Regex.automaton)) := by
  refine ⟨⟨?_, ?_⟩, ?_⟩
  · rw [Scan.result_compile, Scan.result_compile]
    exact Scan.outcome_withoutSpaces {} text
  · intro error index h hindex
    rw [Scan.result_compile] at h
    have hrange := (Scan.position_outcome h hindex).2
    exact nthMark_place (by simpa using hrange)
  · intro hspace
    refine ⟨⟨checkAdmissible_withoutSpaces hspace, ?_⟩, Regex.build_withoutSpaces hspace, ?_⟩
    · intro error index h hindex
      exact nthMark_place (position_checkAdmissible h hindex)
    · intro error index h hindex
      cases hbuild : (Regex.build (.ofList (withoutSpaces text))).result with
      | ok r =>
        rw [hbuild] at h
        cases h
      | error fault =>
        rw [hbuild] at h
        cases h
        have hrange := Regex.position_build hbuild hindex
        rw [String.toList_ofList] at hrange
        exact nthMark_place hrange

/-- The sixth character that is no space is the parenthesis too many. -/
theorem spaces_move_faults_behind_star :
    (compile "a *( b ) )".toList).result = .error (.unbalancedParen 9) ∧
    checkAdmissible "a *( b ) )".toList = .error (.unexpectedCloseParen 9) ∧
    (Regex.build (.ofList "a *( b ) )".toList)).result.map Regex.automaton
      = .error (.inadmissible (.unexpectedCloseParen 9)) ∧
    NthMark "a *( b ) )".toList 5 9 := by
  obtain ⟨⟨hcompile, hplace⟩, hfirst⟩ := spaces_move_faults "a *( b ) )".toList
  obtain ⟨⟨hcheck, -⟩, hbuild, -⟩ := hfirst (by decide)
  have hpacked : (compile (withoutSpaces "a *( b ) )".toList)).result
      = .error (.unbalancedParen 5) := by decide +kernel
  have hrefused : checkAdmissible (withoutSpaces "a *( b ) )".toList)
      = .error (.unexpectedCloseParen 5) := by decide
  have hnine : place "a *( b ) )".toList 5 = 9 := by decide
  have hpattern : (Regex.build (.ofList (withoutSpaces "a *( b ) )".toList))).result
      = .error (.inadmissible (.unexpectedCloseParen 5)) :=
    Regex.build_eq_error.2 (.inl ⟨_, by rwa [String.toList_ofList], rfl⟩)
  have hmark := hplace _ 5 hpacked rfl
  rw [hpacked] at hcompile
  rw [hrefused] at hcheck
  rw [hpattern] at hbuild
  rw [hnine] at hmark
  refine ⟨?_, ?_, ?_, hmark⟩
  · rw [hcompile, ← hnine]
    rfl
  · rw [hcheck, ← hnine]
    rfl
  · rw [hbuild, ← hnine]
    rfl

end RegexMachine
