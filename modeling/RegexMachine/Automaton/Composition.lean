import RegexMachine.Automaton.Basic

namespace RegexMachine.Automaton

/-- The number in `a.concat b` of the state `q` of `b`. The start of `b` becomes the accepting state
of `a`; the other states follow those of `a` in their old order. -/
def splice (a b : Automaton) (q : Nat) : Nat :=
  if q = b.start then a.accept
  else if b.start < q then a.states + q - 1
  else a.states + q

/-- First `a`, then `b`. No free move joins the two: they share a state. -/
def concat (a b : Automaton) : Automaton where
  states := a.states + b.states - 1
  edges := a.edges ++ b.edges.map (·.relabel (a.splice b))
  start := a.start
  accept := a.splice b b.accept

/-- Either `a` or `b`: a new start, the states of `a`, those of `b`, a new accepting state. -/
def union (a b : Automaton) : Automaton where
  states := a.states + b.states + 2
  edges :=
    [⟨0, .epsilon, a.start + 1⟩, ⟨0, .epsilon, b.start + (a.states + 1)⟩]
      ++ a.edges.map (·.relabel (· + 1))
      ++ b.edges.map (·.relabel (· + (a.states + 1)))
      ++ [⟨a.accept + 1, .epsilon, a.states + b.states + 1⟩,
        ⟨b.accept + (a.states + 1), .epsilon, a.states + b.states + 1⟩]
  start := 0
  accept := a.states + b.states + 1

/-- What `star` and `plus` share: a new start, the states of `a`, a new accepting state, and the
move that begins the next round. -/
def loop (a : Automaton) (bypass : List Edge) : Automaton where
  states := a.states + 2
  edges :=
    bypass ++ [⟨0, .epsilon, a.start + 1⟩]
      ++ a.edges.map (·.relabel (· + 1))
      ++ [⟨a.accept + 1, .epsilon, a.start + 1⟩, ⟨a.accept + 1, .epsilon, a.states + 1⟩]
  start := 0
  accept := a.states + 1

/-- Any number of rounds of `a`; the first edge bypasses it. -/
def star (a : Automaton) : Automaton := a.loop [⟨0, .epsilon, a.states + 1⟩]

/-- At least one round of `a`. -/
def plus (a : Automaton) : Automaton := a.loop []

end RegexMachine.Automaton
