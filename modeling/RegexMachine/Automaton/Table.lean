import RegexMachine.Automaton.Basic

namespace RegexMachine

/-- A character is written as it is, so the letter ε is not told apart from the free move. -/
def Label.text : Label → String
  | char c => c.toString
  | epsilon => "ε"

def Edge.text (e : Edge) : String :=
  "(" ++ toString e.source ++ ", " ++ e.label.text ++ ", " ++ toString e.target ++ ")"

namespace Automaton

/-- The edges in stored order, each on a line of its own. -/
def table (a : Automaton) : String := String.join (a.edges.map (·.text ++ "\n"))

/-- The table under the numbers that the edges do not show. -/
def description (a : Automaton) : String :=
  "Start state: " ++ toString a.start ++ "\nAccept state: " ++ toString a.accept ++
    "\nStates: " ++ toString a.states ++ "\n" ++ a.table

end Automaton

end RegexMachine
