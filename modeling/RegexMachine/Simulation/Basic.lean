import RegexMachine.Automaton.Basic
import RegexMachine.Simulation.Frontier
import RegexMachine.Word

namespace RegexMachine

/-- An automaton with its edges sorted by source: `leaving` holds for each state where its edges lead and
what they read, in stored order. -/
structure Simulation where
  automaton : Automaton
  leaving : Array (List (Label × Nat))

/-- Sorts the edges by source in one pass from the last to the first. -/
def Automaton.simulation (a : Automaton) : Simulation where
  automaton := a
  leaving := a.edges.foldr (fun e rows => rows.modify e.source ((e.label, e.target) :: ·))
    (Array.replicate a.states [])

/-- How many rows of edges a block of memory has room for; the head of a row takes three words. -/
def Simulation.capacity : Nat := (Word.blockSize - 1) / 24

/-- The simulation, unless memory has no room for its rows or some edge leaves a number that has none. -/
def Automaton.simulation? (a : Automaton) : Option Simulation :=
  if a.states ≤ Simulation.capacity ∧ a.edges.all (·.source < a.states) then some a.simulation
  else none

namespace Simulation

def successors (s : Simulation) (q : Nat) : List (Label × Nat) := s.leaving.getD q []

/-- The states that one free move from `q` leads to. -/
def freeMoves (s : Simulation) (q : Nat) : List Nat :=
  (s.successors q).filterMap fun (label, r) => if label.isEpsilon then some r else none

/-- The states that reading `c` at `q` leads to. -/
def readMoves (s : Simulation) (c : Char) (q : Nat) : List Nat :=
  (s.successors q).filterMap fun (label, r) => if label.accepts c then some r else none

/-- Follows free moves from `seeds`: what was met, and the states in the order in which they were left, the
last one first. -/
def search? (s : Simulation) (seeds : List Nat) : Option (Array Bool × List Nat) := do
  let f ← seeds.foldlM Frontier.meet? (.empty s.leaving.size)
  Frontier.explore? s.freeMoves f []

/-- The states that free moves lead to from `seeds`, the seeds included, in ascending order. -/
def closure? (s : Simulation) (seeds : List Nat) : Option (List Nat) := do
  let (_, left) ← s.search? seeds
  pure (left.mergeSort (· ≤ ·))

/-- Reads a text from the states `current`. Once no walk is left, the rest need not be read. -/
def advance? (s : Simulation) : List Nat → List Char → Option (List Nat)
  | [], _ => some []
  | current, [] => some current
  | current, c :: rest => do
    let (_, left) ← s.search? (current.flatMap (s.readMoves c))
    s.advance? left rest

/-- Reads a text from what free moves lead to from `seeds`. -/
def follow? (s : Simulation) (seeds : List Nat) (text : List Char) : Option (List Nat) := do
  let (_, left) ← s.search? seeds
  s.advance? left text

/-- The states that some walk from the start reaches by reading all of `text`. -/
def run? (s : Simulation) (text : List Char) : Option (List Nat) :=
  s.follow? [s.automaton.start] text

/-- The states reached, where an automaton that leads out of its states reaches none. -/
def run (s : Simulation) (text : List Char) : List Nat := (s.run? text).getD []

/-- Whether one of the walks ends in the accepting state. -/
def accepts (s : Simulation) (text : List Char) : Bool :=
  (s.run text).contains s.automaton.accept

theorem automaton_simulation (a : Automaton) : a.simulation.automaton = a := rfl

theorem leaving_simulation (a : Automaton) (q : Nat) :
    a.simulation.leaving[q]? = if q < a.states then some (a.successors q) else none := by
  obtain ⟨states, edges, start, accept⟩ := a
  simp only [Automaton.simulation, Automaton.successors]
  induction edges generalizing q with
  | nil => simp [Array.getElem?_replicate]
  | cons e edges ih =>
    rw [List.foldr_cons, Array.getElem?_modify, ih]
    by_cases h : e.source = q <;> by_cases hq : q < states <;> simp [h, hq]

theorem size_leaving (a : Automaton) : a.simulation.leaving.size = a.states := by
  have size (edges : List Edge) (rows : Array (List (Label × Nat))) :
      (edges.foldr (fun e rows => rows.modify e.source ((e.label, e.target) :: ·)) rows).size
        = rows.size := by
    induction edges with
    | nil => rfl
    | cons e edges ih => rw [List.foldr_cons, Array.size_modify, ih]
  rw [Automaton.simulation, size, Array.size_replicate]

theorem successors_simulation (a : Automaton) (q : Nat) :
    a.simulation.successors q = if q < a.states then a.successors q else [] := by
  rw [successors, Array.getD_eq_getD_getElem?, leaving_simulation]
  split <;> rfl

end Simulation

/-- Whether `a` accepts all of `text`. -/
def Automaton.accepts (a : Automaton) (text : List Char) : Bool := a.simulation.accepts text

/-- The closure of `seeds` in a simulation of `a`. -/
def Automaton.closure? (a : Automaton) (seeds : List Nat) : Option (List Nat) := do
  (← a.simulation?).closure? seeds

end RegexMachine
