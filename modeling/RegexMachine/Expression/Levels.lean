import RegexMachine.Expression.Grammar
import RegexMachine.Log.Record

namespace RegexMachine

/-- The ends of a list with at least two elements, the shortest first. -/
def longEnds {α : Type} : List α → List (List α)
  | [] => []
  | [_] => []
  | first :: second :: rest => longEnds (second :: rest) ++ [first :: second :: rest]

namespace Tree

/-- The automata of the factors of the last alternative, the one that no bar follows. A phrase that is not
a choice has no alternatives but itself. -/
def lastFactors : {p : Phrase} → Tree p → List Automaton
  | _, only item => item.parts
  | _, either _ rest => rest.lastFactors
  | _, phrase => phrase.parts

/-- The insides of the groups in a phrase, in the order in which the groups are closed. -/
def groups : {p : Phrase} → Tree p → List (Tree .choice)
  | _, operand _ _ => []
  | _, group inner => inner.groups ++ [inner]
  | _, once item => item.groups
  | _, star item => item.groups
  | _, plus item => item.groups
  | _, final item => item.groups
  | _, followed item rest => item.groups ++ rest.groups
  | _, only item => item.groups
  | _, either item rest => item.groups ++ rest.groups

/-- All levels of an expression in the order in which they end; that of the whole ends last. -/
def levels (t : Tree .choice) : List (Tree .choice) := t.groups ++ [t]

/-- What the end of a level records. The factors of its last alternative are joined one by one from the
last one back, then the alternatives in the same way; each time the size of what is joined so far is
recorded. The factors of the other alternatives are joined unrecorded. -/
def reductions (t : Tree .choice) : List Record :=
  (longEnds t.lastFactors).map (fun factors => .reduced .concat (Automaton.sequence factors).states)
    ++ (longEnds t.parts).map fun alternatives =>
      .reduced .union (Automaton.choice alternatives).states

end Tree

end RegexMachine
