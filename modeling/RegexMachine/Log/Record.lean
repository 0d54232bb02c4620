import RegexMachine.Scan.Operator
import RegexMachine.Text.Quoted

namespace RegexMachine

/-- What building a regular expression and asking it leaves in a log: an operator was applied, a whole
expression was compiled, a pattern passed every check, a text was read to its end. -/
inductive Record where
  | reduced (operator : Operator) (states : Nat)
  | compiled (expression : List Char) (states edges : Nat)
  | built (pattern : String) (states : Nat)
  | simulated (states : Nat) (matched : Bool)
  deriving DecidableEq

/-- A record as one line: how important it is, which component speaks, and what it says. -/
def Record.text : Record → String
  | reduced operator states =>
    "TRACE thompson_enfa::compiler: reduced '" ++ operator.symbol.toString ++ "' into "
      ++ toString states ++ " states"
  | compiled expression states edges =>
    "DEBUG thompson_enfa::compiler: compiled " ++ Text.quote '"' expression ++ " into "
      ++ toString states ++ " states and " ++ toString edges ++ " transitions"
  | built pattern states =>
    "DEBUG enfa_regex: built regex " ++ Text.quote '"' pattern.toList ++ " with "
      ++ toString states ++ " states"
  | simulated states matched =>
    "TRACE thompson_enfa::matcher: simulation ended in " ++ toString states ++ " states, matched: "
      ++ (if matched then "true" else "false")

end RegexMachine
