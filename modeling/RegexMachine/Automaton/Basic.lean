namespace RegexMachine

/-- What a move along an edge reads: one character, or nothing. -/
inductive Label where
  | char (c : Char)
  | epsilon
  deriving DecidableEq

namespace Label

def isEpsilon : Label → Bool
  | char _ => false
  | epsilon => true

/-- Whether a move with this label reads `c`. -/
def accepts : Label → Char → Bool
  | char d, c => d = c
  | epsilon, _ => false

@[simp] theorem isEpsilon_iff {l : Label} : l.isEpsilon = true ↔ l = epsilon := by
  cases l <;> simp [isEpsilon]

@[simp] theorem accepts_iff {l : Label} {c : Char} : l.accepts c = true ↔ l = char c := by
  cases l <;> simp [accepts]

end Label

/-- A labelled edge. -/
structure Edge where
  source : Nat
  label : Label
  target : Nat
  deriving DecidableEq

/-- Renumbers both ends. -/
def Edge.relabel (f : Nat → Nat) (e : Edge) : Edge := ⟨f e.source, e.label, f e.target⟩

/-- The states are the numbers below `states`. Edges keep the order in which they were added. -/
structure Automaton where
  states : Nat
  edges : List Edge
  start : Nat
  accept : Nat
  deriving DecidableEq

namespace Automaton

/-- Two states joined by one edge that reads `c`. -/
def literal (c : Char) : Automaton := ⟨2, [⟨0, .char c, 1⟩], 0, 1⟩

/-- States without edges, at least one, since the start is also the accepting state. -/
def bare (states : Nat) : Automaton := ⟨max states 1, [], 0, 0⟩

/-- Where the edges that leave `q` lead, and what they read, in stored order. -/
def successors (a : Automaton) (q : Nat) : List (Label × Nat) :=
  (a.edges.filter (·.source = q)).map fun e => (e.label, e.target)

theorem mem_successors {a : Automaton} {q r : Nat} {l : Label} :
    (l, r) ∈ a.successors q ↔ ⟨q, l, r⟩ ∈ a.edges := by
  constructor
  · intro h
    obtain ⟨⟨p, m, s⟩, he, hl⟩ := List.mem_map.1 h
    obtain ⟨he, hp⟩ := List.mem_filter.1 he
    simp only [decide_eq_true_eq, Prod.mk.injEq] at hp hl
    obtain ⟨rfl, rfl⟩ := hl
    exact hp ▸ he
  · intro h
    exact List.mem_map.2 ⟨_, List.mem_filter.2 ⟨h, by simp⟩, rfl⟩

end Automaton

end RegexMachine
