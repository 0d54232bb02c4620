import RegexMachine.Automaton.Path

namespace RegexMachine

/-- What an edge with this label reads. -/
def Label.word : Label → List Char
  | char c => [c]
  | epsilon => []

namespace Path

variable {edges more : List Edge} {p q r : Nat} {v w : List Char}

theorem step {e : Edge} (he : e ∈ edges) (h : Path edges e.target w q) :
    Path edges e.source (e.label.word ++ w) q := by
  obtain ⟨p, _ | _, r⟩ := e
  · exact .read he h
  · exact .free he h

/-- Induction on a walk from its end, with one case for edges of both kinds. -/
@[elab_as_elim]
theorem walk {motive : (p : Nat) → (w : List Char) → Path edges p w r → Prop}
    (refl : motive r [] (.refl r))
    (step : ∀ (e : Edge) (w : List Char) (he : e ∈ edges) (h : Path edges e.target w r),
      motive e.target w h → motive e.source (e.label.word ++ w) (.step he h))
    (h : Path edges p w r) : motive p w h := by
  induction h with
  | refl => exact refl
  | free he h ih => exact step ⟨_, .epsilon, _⟩ _ he h (ih refl step)
  | read he h ih => exact step ⟨_, .char _, _⟩ _ he h (ih refl step)

theorem exists_step (h : Path edges p w r) (hne : p ≠ r) :
    ∃ e ∈ edges, ∃ v, e.source = p ∧ w = e.label.word ++ v ∧ Path edges e.target v r := by
  cases h using walk with
  | refl => exact absurd rfl hne
  | step e v he h => exact ⟨e, he, v, rfl, rfl, h⟩

theorem eq_of_no_exit (h : Path edges p w r) (hp : ∀ e ∈ edges, e.source ≠ p) :
    w = [] ∧ r = p := by
  cases h using walk with
  | refl => exact ⟨rfl, rfl⟩
  | step e v he h => exact absurd rfl (hp e he)

/-- Every edge is found again under new numbers, so every walk is. -/
theorem embed {f : Nat → Nat} (hf : ∀ e ∈ edges, e.relabel f ∈ more) (h : Path edges p w q) :
    Path more (f p) w (f q) := by
  induction h using walk with
  | refl => exact .refl _
  | step e w he h ih => exact .step (hf e he) ih

theorem of_relabel {f : Nat → Nat} (hf : ∀ {x y}, f x = f y → x = y)
    (h : Path (edges.map (·.relabel f)) r w q) :
    ∀ {p}, r = f p → ∃ q', q = f q' ∧ Path edges p w q' := by
  induction h using walk with
  | refl => exact fun hp => ⟨_, hp, .refl _⟩
  | step e w he h ih =>
    intro p hp
    obtain ⟨g, hg, rfl⟩ := List.mem_map.1 he
    obtain rfl : g.source = p := hf hp
    obtain ⟨q', hq, h⟩ := ih rfl
    exact ⟨q', hq, .step hg h⟩

end Path

end RegexMachine
