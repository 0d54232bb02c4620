import RegexMachine.Expression.SyntaxError
import RegexMachine.Scan.Basic
import RegexMachine.Simulation.Basic

namespace RegexMachine

/-- Why a pattern is no regular expression: it is not admissible, or it is and does not compile. -/
inductive BuildError where
  | inadmissible (error : SyntaxError)
  | uncompilable (error : CompileError)
  deriving DecidableEq

namespace BuildError

/-- The message of the fault itself. -/
def cause : BuildError → String
  | inadmissible error => error.message
  | uncompilable error => error.message

def message : BuildError → String
  | inadmissible error => "invalid expression: " ++ error.message
  | uncompilable error => "failed to compile: " ++ error.message

end BuildError

/-- A pattern with its automaton. -/
structure Regex where
  pattern : String
  automaton : Automaton

namespace Regex

/-- Checks a pattern, then compiles it. -/
def build (pattern : String) : Logged BuildError Regex := do
  .mapError .inadmissible (.ofExcept (checkAdmissible pattern.toList))
  let automaton ← .mapError .uncompilable (compile pattern.toList)
  .emit (.built pattern automaton.states)
  pure ⟨pattern, automaton⟩

/-- Whether all of `input` matches. -/
def isMatch (r : Regex) (input : String) : Bool := r.automaton.accepts input.toList

/-- Asks whether all of `input` matches, and records in how many states the simulation ended. -/
def query {ε : Type} (r : Regex) (input : String) : Logged ε Bool := do
  let ended := r.automaton.simulation.run input.toList
  let matched := ended.contains r.automaton.accept
  .emit (.simulated ended.length matched)
  pure matched

/-- Asks about each input in turn. -/
def queryAll {ε : Type} (r : Regex) : List String → Logged ε (List Bool)
  | [] => pure []
  | input :: rest => do
    let matched ← r.query input
    let others ← r.queryAll rest
    pure (matched :: others)

/-- Builds a pattern and asks it about each input in turn. -/
def answers (pattern : String) (inputs : List String) : Logged BuildError (List Bool) := do
  let r ← build pattern
  r.queryAll inputs

/-- The pattern in quotes, marked as a regular expression. -/
def inspect (r : Regex) : String := "Regex(" ++ Text.quote '"' r.pattern.toList ++ ")"

theorem result_query {ε : Type} (r : Regex) (input : String) :
    (r.query input : Logged ε Bool).result = .ok (r.isMatch input) := rfl

end Regex

end RegexMachine
