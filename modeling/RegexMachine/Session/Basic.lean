import RegexMachine.Automaton.Table
import RegexMachine.Regex
import RegexMachine.Session.Options
import RegexMachine.Text.Lines

namespace RegexMachine

/-- Where a dialogue stands: its first line, the expression, is not read yet; every further line is answered
by the same simulation; or a bad expression or an unreadable line ended it. -/
inductive Session where
  | awaiting (options : Options)
  | answering (simulation : Simulation)
  | failed

/-- What a program run printed, and the code it ended with. -/
structure Transcript where
  exitCode : Nat
  output : String
  deriving DecidableEq

namespace Session

def prompt : String := "Enter the regular expression:\n"

/-- The exit code of a dialogue that reached the end of its input. -/
def success : Nat := 0

/-- The exit code after a bad expression or an unreadable line. -/
def failure : Nat := 1

/-- The exit code after a command line that is not understood. -/
def misuse : Nat := 2

def answer (matched : Bool) : String := if matched then "true\n" else "false\n"

/-- Checks an expression, then compiles it. A dialogue keeps no log and no pattern. -/
def prepare (expression : String) : Except BuildError Automaton := do
  (checkAdmissible expression.toList).mapError .inadmissible
  (compile expression.toList).result.mapError .uncompilable

/-- Takes one line, which is `none` if its bytes spell no text, and gives what is printed next. -/
def next : Session → Option String → String × Session
  | awaiting _, none => ("", failed)
  | awaiting options, some pattern =>
    match prepare pattern with
    | .error _ => ("Invalid Expression\n", failed)
    | .ok a =>
      ((if options.verbose then a.description else "") ++ "ready\n", answering a.simulation)
  | answering _, none => ("", failed)
  | answering simulation, some input =>
    (answer (simulation.accepts input.toList), answering simulation)
  | failed, _ => ("", failed)

/-- Continues a dialogue, of which `output` is printed already, with the lines that are left. -/
def resume (output : String) : Session → List (Option String) → Transcript
  | failed, _ => ⟨failure, output⟩
  | awaiting _, [] | answering _, [] => ⟨success, output⟩
  | session, line :: rest =>
    let (printed, session) := session.next line
    resume (output ++ printed) session rest

/-- The dialogue over the lines of `input`. -/
def run (options : Options) (input : List UInt8) : Transcript :=
  resume prompt (awaiting options) ((Text.lines input).map Text.decode)

/-- The exit code of a command line that asks for no dialogue. -/
def ended : Ending → Nat
  | .page => success
  | .misuse => misuse

/-- The program: reads its arguments, then its input. A page is no part of the transcript. -/
def command (arguments : List String) (input : List UInt8) : Transcript :=
  match Options.parse arguments with
  | .error ending => ⟨ended ending, ""⟩
  | .ok options => run options input

end Session

end RegexMachine
