import RegexMachine.Automaton.Machine
import RegexMachine.Scan.Basic

namespace RegexMachine

/-- The automata that a program, built in one way or the other, can build: from literals, bare states and
compiled expressions by sequence, choice and repetition. No text is as long as a block of memory. -/
inductive Constructible (k : Build) : Automaton → Prop where
  | literal (c : Char) : Constructible k (.literal c)
  | bare {states : Nat} (word : states < Word.size) : Constructible k (.bare states)
  | compiled {expression : List Char} {a : Automaton} (short : expression.length < Word.blockSize)
      (h : (compile expression).result = .ok a) : Constructible k a
  | concat {a b c : Automaton} (ha : Constructible k a) (hb : Constructible k b)
      (h : a.concat? k b = some c) : Constructible k c
  | union {a b c : Automaton} (ha : Constructible k a) (hb : Constructible k b)
      (h : a.union? k b = some c) : Constructible k c
  | star {a b : Automaton} (ha : Constructible k a) (h : a.star? k = some b) : Constructible k b
  | plus {a b : Automaton} (ha : Constructible k a) (h : a.plus? k = some b) : Constructible k b

end RegexMachine
