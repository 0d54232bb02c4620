import RegexMachine.Automaton.Composition
import RegexMachine.Word

namespace RegexMachine

/-- Renumbers both ends, if both have a new number. -/
def Edge.relabel? (f : Nat → Option Nat) (e : Edge) : Option Edge := do
  let source ← f e.source
  let target ← f e.target
  pure ⟨source, e.label, target⟩

namespace Automaton

/-- Puts an automaton together. It is asserted of each end of an edge, of the start and of the accepting
state that they are states. -/
def assemble? (k : Build) (states : Nat) (edges : List Edge) (start accept : Nat) :
    Option Automaton := do
  let states := max states 1
  edges.forM fun e => do
    k.assert? (e.source < states)
    k.assert? (e.target < states)
  k.assert? (start < states)
  k.assert? (accept < states)
  pure ⟨states, edges, start, accept⟩

/-- `splice` in machine words. -/
def splice? (k : Build) (a b : Automaton) (q : Nat) : Option Nat :=
  if q = b.start then some a.accept
  else if b.start < q then do k.pred? (← k.add? a.states q)
  else k.add? a.states q

/-- `concat` in machine words. -/
def concat? (k : Build) (a b : Automaton) : Option Automaton := do
  let states ← k.pred? (← k.add? a.states b.states)
  let moved ← b.edges.mapM (·.relabel? (a.splice? k b))
  let accept ← a.splice? k b b.accept
  assemble? k states (a.edges ++ moved) a.start accept

/-- `union` in machine words. -/
def union? (k : Build) (a b : Automaton) : Option Automaton := do
  let offset ← k.add? 1 a.states
  let accept ← k.add? (← k.add? a.states b.states) 1
  let states ← k.add? (← k.add? a.states b.states) 2
  let firstStart ← k.add? a.start 1
  let secondStart ← k.add? b.start offset
  let first ← a.edges.mapM (·.relabel? (k.add? · 1))
  let second ← b.edges.mapM (·.relabel? (k.add? · offset))
  let firstEnd ← k.add? a.accept 1
  let secondEnd ← k.add? b.accept offset
  assemble? k states
    ([⟨0, .epsilon, firstStart⟩, ⟨0, .epsilon, secondStart⟩] ++ first ++ second
      ++ [⟨firstEnd, .epsilon, accept⟩, ⟨secondEnd, .epsilon, accept⟩])
    0 accept

/-- `loop` in machine words; `bypass` tells the first edges from the accepting state. -/
def loop? (k : Build) (a : Automaton) (bypass : Nat → List Edge) : Option Automaton := do
  let accept ← k.add? a.states 1
  let states ← k.add? a.states 2
  let start ← k.add? a.start 1
  let moved ← a.edges.mapM (·.relabel? (k.add? · 1))
  let last ← k.add? a.accept 1
  assemble? k states
    (bypass accept ++ [⟨0, .epsilon, start⟩] ++ moved
      ++ [⟨last, .epsilon, start⟩, ⟨last, .epsilon, accept⟩])
    0 accept

/-- `star` in machine words. -/
def star? (k : Build) (a : Automaton) : Option Automaton :=
  a.loop? k fun accept => [⟨0, .epsilon, accept⟩]

/-- `plus` in machine words. -/
def plus? (k : Build) (a : Automaton) : Option Automaton := a.loop? k fun _ => []

end Automaton

end RegexMachine
