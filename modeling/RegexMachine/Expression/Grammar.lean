import RegexMachine.Automaton.Composition
import RegexMachine.Expression.Alphabet

namespace RegexMachine

/-- The kinds of phrases, from the loosest to the tightest: sequences with bars between them, repetitions
next to each other, an atom with any number of stars and plusses after it. -/
inductive Phrase where
  | choice
  | sequence
  | repetition
  | atom

/-- The parse trees of each kind of phrase. -/
inductive Tree : Phrase → Type where
  | operand (c : Char) (isOperand : isOperand c = true) : Tree .atom
  | group (inner : Tree .choice) : Tree .atom
  | once (item : Tree .atom) : Tree .repetition
  | star (item : Tree .repetition) : Tree .repetition
  | plus (item : Tree .repetition) : Tree .repetition
  | final (item : Tree .repetition) : Tree .sequence
  | followed (item : Tree .repetition) (rest : Tree .sequence) : Tree .sequence
  | only (item : Tree .sequence) : Tree .choice
  | either (item : Tree .sequence) (rest : Tree .choice) : Tree .choice

namespace Tree

/-- What the tree is a parse of. -/
def text : {p : Phrase} → Tree p → List Char
  | _, operand c _ => [c]
  | _, group inner => '(' :: inner.text ++ [')']
  | _, once item => item.text
  | _, star item => item.text ++ ['*']
  | _, plus item => item.text ++ ['+']
  | _, final item => item.text
  | _, followed item rest => item.text ++ rest.text
  | _, only item => item.text
  | _, either item rest => item.text ++ '|' :: rest.text

end Tree

namespace Automaton

/-- The sequence of some automata, joined from the first to the last; of none, the unit of
`concat`. -/
def sequence : List Automaton → Automaton
  | [] => bare 1
  | first :: rest => rest.foldl concat first

/-- The choice between some automata, joined from the last to the first. No phrase has an empty
choice. -/
def choice : List Automaton → Automaton
  | [] => bare 1
  | [last] => last
  | first :: second :: rest => first.union (choice (second :: rest))

end Automaton

namespace Tree

/-- The automata of the parts next to each other at the top of the tree: of the alternatives of a
choice and of the factors of a sequence. A repetition and an atom have one part. -/
def parts : {p : Phrase} → Tree p → List Automaton
  | _, operand c _ => [.literal c]
  | _, group inner => [.choice inner.parts]
  | _, once item => item.parts
  | _, star item => item.parts.map .star
  | _, plus item => item.parts.map .plus
  | _, final item => item.parts
  | _, followed item rest => item.parts ++ rest.parts
  | _, only item => [.sequence item.parts]
  | _, either item rest => .sequence item.parts :: rest.parts

/-- The automaton of a whole expression. -/
def automaton (t : Tree .choice) : Automaton := .choice t.parts

end Tree

end RegexMachine
