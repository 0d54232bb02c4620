import RegexMachine.Proofs.Automaton.Shape
import RegexMachine.Proofs.Automaton.Walk
import RegexMachine.Proofs.Simulation.Explore
import RegexMachine.Simulation.Basic

namespace RegexMachine

theorem Path.exists_read {edges : List Edge} {p q : Nat} {c : Char} {w : List Char}
    (h : Path edges p (c :: w) q) :
    ∃ m r, Path edges p [] m ∧ ⟨m, .char c, r⟩ ∈ edges ∧ Path edges r w q := by
  generalize htext : c :: w = text at h
  induction h with
  | refl => cases htext
  | free he _ ih =>
    obtain ⟨m, r, hm, hread, hr⟩ := ih htext
    exact ⟨m, r, .free he hm, hread, hr⟩
  | read he h _ =>
    cases htext
    exact ⟨_, _, .refl _, he, h⟩

/-- What free moves preserve holds at the end of a walk that reads nothing. -/
theorem Path.free_invariant {edges : List Edge} {P : Nat → Prop}
    (hfree : ∀ q, P q → ∀ r, ⟨q, .epsilon, r⟩ ∈ edges → P r) {p q : Nat} (h : Path edges p [] q)
    (hp : P p) : P q := by
  generalize htext : ([] : List Char) = text at h
  induction h with
  | refl => exact hp
  | free he _ ih => exact ih (hfree _ hp _ he) htext
  | read => cases htext

theorem Automaton.Proper.path_lt {a : Automaton} (ha : a.Proper) {p q : Nat} {w : List Char}
    (h : Path a.edges p w q) (hp : p < a.states) : q < a.states := by
  induction h using Path.walk with
  | refl => exact hp
  | step e _ he _ ih => exact ih (ha.target_lt e he)

namespace Simulation

variable {a : Automaton} {p q r : Nat} {c : Char} {text : List Char} {seen : Array Bool}
  {seeds left ended : List Nat}

theorem mem_freeMoves :
    r ∈ a.simulation.freeMoves q ↔ q < a.states ∧ ⟨q, .epsilon, r⟩ ∈ a.edges := by
  rw [freeMoves, successors_simulation, ← Automaton.mem_successors]
  split <;> simp [List.mem_filterMap, *]

theorem mem_readMoves :
    r ∈ a.simulation.readMoves c q ↔ q < a.states ∧ ⟨q, .char c, r⟩ ∈ a.edges := by
  rw [readMoves, successors_simulation, ← Automaton.mem_successors]
  split <;> simp [List.mem_filterMap, *]

theorem marks_seeds {states : Nat} {f : Frontier}
    (h : seeds.foldlM Frontier.meet? (.empty states) = some f) :
    f.Marks [] ∧ f.seen.size = states ∧ ∀ q, q ∈ f.pending ++ [] ↔ q ∈ seeds := by
  obtain ⟨hmarks, hsize, hmem⟩ := (Frontier.marks_empty states).foldlM_meet? h
  refine ⟨hmarks, ?_, ?_⟩
  · rw [hsize]
    simp [Frontier.empty]
  · simpa [Frontier.empty] using hmem

/-- What a search from `seeds` has left: states alone, every one once, and those are marked as met. -/
theorem marks_search? (h : a.simulation.search? seeds = some (seen, left)) :
    left.Nodup ∧ (∀ q, seen[q]? = some true ↔ q ∈ left) ∧ ∀ q ∈ left, q < a.states := by
  obtain ⟨f, hmeet, hexplore⟩ := Option.bind_eq_some_iff.1 h
  obtain ⟨hmarks, hsize, -⟩ := marks_seeds hmeet
  obtain ⟨hleft, hseen⟩ := Frontier.marks_explore? hmarks hexplore
  refine ⟨hleft.nodup, hleft.met, ?_⟩
  intro q hq
  rw [← size_leaving, ← hsize, ← hseen]
  exact hleft.lt_size hq

/-- One free move more after a walk from a seed that reads nothing. -/
theorem path_freeMoves (h : ∃ p ∈ seeds, Path a.edges p [] q) (hr : r ∈ a.simulation.freeMoves q) :
    ∃ p ∈ seeds, Path a.edges p [] r := by
  obtain ⟨p, hp, hpath⟩ := h
  exact ⟨p, hp, hpath.append (.free (mem_freeMoves.1 hr).2 (.refl r))⟩

/-- What it has left are the ends of the walks from its seeds that read nothing. -/
theorem mem_search? (h : a.simulation.search? seeds = some (seen, left)) :
    q ∈ left ↔ ∃ p ∈ seeds, Path a.edges p [] q := by
  obtain ⟨-, -, hlt⟩ := marks_search? h
  obtain ⟨f, hmeet, hexplore⟩ := Option.bind_eq_some_iff.1 h
  obtain ⟨hmarks, -, hmem⟩ := marks_seeds hmeet
  apply Iff.intro
  · apply Frontier.forall_explore? (P := fun q => ∃ p ∈ seeds, Path a.edges p [] q) hmarks ?_ ?_
      hexplore
    · intro p hp
      exact ⟨p, (hmem p).1 hp, .refl p⟩
    · intro q hq r hr
      exact path_freeMoves hq hr
  · intro h
    obtain ⟨p, hp, hpath⟩ := h
    have hfound := Frontier.subset_explore? hmarks hexplore ((hmem p).2 hp)
    have hclosed := Frontier.closed_explore? hmarks nofun hexplore
    apply hpath.free_invariant (P := (· ∈ left)) ?_ hfound
    intro q hq r he
    exact hclosed q hq (mem_freeMoves.2 ⟨hlt q hq, he⟩)

/-- A search fails if and only if free moves lead from a seed to a number that is no state. -/
theorem search?_eq_none : a.simulation.search? seeds = none ↔
    ∃ q, (∃ p ∈ seeds, Path a.edges p [] q) ∧ a.states ≤ q := by
  apply Iff.intro
  · intro h
    cases hmeet : seeds.foldlM Frontier.meet? (.empty a.simulation.leaving.size) with
    | none =>
      obtain ⟨p, hp, hle⟩ := (Frontier.foldlM_meet?_eq_none (Frontier.marks_empty _)).1 hmeet
      refine ⟨p, ⟨p, hp, .refl p⟩, ?_⟩
      simpa [Frontier.empty, size_leaving] using hle
    | some f =>
      rw [search?, hmeet] at h
      obtain ⟨hmarks, hsize, hmem⟩ := marks_seeds hmeet
      rw [← size_leaving, ← hsize]
      apply Frontier.exists_of_explore?_eq_none hmarks ?_ ?_ h
      · intro p hp
        exact ⟨p, (hmem p).1 hp, .refl p⟩
      · intro q hq r hr
        exact path_freeMoves hq hr
  · intro h
    obtain ⟨q, hq, hle⟩ := h
    cases hsearch : a.simulation.search? seeds with
    | none => rfl
    | some found =>
      obtain ⟨-, -, hlt⟩ := marks_search? hsearch
      exact absurd (hlt q ((mem_search? hsearch).2 hq)) (Nat.not_lt.2 hle)

theorem search?_nil (s : Simulation) : ∃ seen, s.search? [] = some (seen, []) :=
  ⟨_, by rw [search?]; exact Frontier.explore?_nil⟩

theorem advance?_nil (s : Simulation) (text : List Char) : s.advance? [] text = some [] := by
  simp [advance?]

theorem advance?_end (s : Simulation) (current : List Nat) :
    s.advance? current [] = some current := by
  cases current <;> rfl

/-- Stopping early changes nothing: from no state, reading on leads to no state. -/
theorem advance?_cons (s : Simulation) (current : List Nat) (c : Char) (rest : List Char) :
    s.advance? current (c :: rest) = (s.search? (current.flatMap (s.readMoves c))).bind
      fun found => s.advance? found.2 rest := by
  cases current with
  | nil =>
    obtain ⟨seen, hsearch⟩ := s.search?_nil
    rw [List.flatMap_nil, hsearch, Option.bind_some, advance?_nil, advance?_nil]
  | cons p current =>
    rw [advance?]
    · rfl
    · exact List.cons_ne_nil p current

theorem advance?_append (s : Simulation) (current : List Nat) (u v : List Char) :
    s.advance? current (u ++ v) = (s.advance? current u).bind fun mid => s.advance? mid v := by
  induction u generalizing current with
  | nil => rw [advance?_end, Option.bind_some, List.nil_append]
  | cons c u ih =>
    rw [List.cons_append, advance?_cons, advance?_cons, Option.bind_assoc]
    exact congrArg _ (funext fun found => ih found.2)

theorem run?_append (s : Simulation) (u v : List Char) :
    s.run? (u ++ v) = (s.run? u).bind fun mid => s.advance? mid v := by
  simp only [run?, follow?, Option.bind_eq_bind, Option.bind_assoc, advance?_append]

theorem follow?_nil (s : Simulation) (seeds : List Nat) :
    s.follow? seeds [] = (s.search? seeds).map (·.2) := by
  simp only [follow?, advance?_end]
  cases s.search? seeds <;> rfl

theorem follow?_cons (s : Simulation) (seeds : List Nat) (c : Char) (rest : List Char) :
    s.follow? seeds (c :: rest) = (s.search? seeds).bind
      fun found => s.follow? (found.2.flatMap (s.readMoves c)) rest := by
  simp only [follow?, advance?_cons]
  rfl

/-- Free moves from the seeds, then a character, then a walk: these are the walks from the seeds that read
the character first. -/
theorem path_readMoves (h : a.simulation.search? seeds = some (seen, left)) :
    (∃ r ∈ left.flatMap (a.simulation.readMoves c), Path a.edges r text q) ↔
      ∃ p ∈ seeds, Path a.edges p (c :: text) q := by
  obtain ⟨-, -, hlt⟩ := marks_search? h
  apply Iff.intro
  · intro hmoved
    obtain ⟨r, hr, hrest⟩ := hmoved
    obtain ⟨m, hm, hread⟩ := List.mem_flatMap.1 hr
    obtain ⟨p, hp, hfree⟩ := (mem_search? h).1 hm
    exact ⟨p, hp, hfree.append (.read (mem_readMoves.1 hread).2 hrest)⟩
  · intro hwalk
    obtain ⟨p, hp, hpath⟩ := hwalk
    obtain ⟨m, r, hfree, he, hrest⟩ := hpath.exists_read
    have hm := (mem_search? h).2 ⟨p, hp, hfree⟩
    exact ⟨r, List.mem_flatMap.2 ⟨m, hm, mem_readMoves.2 ⟨hlt m hm, he⟩⟩, hrest⟩

theorem mem_follow? (h : a.simulation.follow? seeds text = some ended) :
    ended.Nodup ∧ ∀ q, q ∈ ended ↔ ∃ p ∈ seeds, Path a.edges p text q := by
  induction text generalizing seeds with
  | nil =>
    rw [follow?_nil] at h
    obtain ⟨⟨seen, left⟩, hsearch, rfl⟩ := Option.map_eq_some_iff.1 h
    exact ⟨(marks_search? hsearch).1, fun q => mem_search? hsearch⟩
  | cons c rest ih =>
    rw [follow?_cons] at h
    obtain ⟨⟨seen, left⟩, hsearch, hrest⟩ := Option.bind_eq_some_iff.1 h
    obtain ⟨hnodup, hmem⟩ := ih hrest
    exact ⟨hnodup, fun q => (hmem q).trans (path_readMoves hsearch)⟩

/-- Following a text fails if and only if a walk from a seed that reads its beginning ends in a number that
is no state. -/
theorem follow?_eq_none : a.simulation.follow? seeds text = none ↔
    ∃ u v, u ++ v = text ∧ ∃ q, (∃ p ∈ seeds, Path a.edges p u q) ∧ a.states ≤ q := by
  induction text generalizing seeds with
  | nil =>
    rw [follow?_nil, Option.map_eq_none_iff, search?_eq_none]
    simp
  | cons c rest ih =>
    rw [follow?_cons]
    cases hsearch : a.simulation.search? seeds with
    | none =>
      have hfree := search?_eq_none.1 hsearch
      exact iff_of_true rfl ⟨[], c :: rest, rfl, hfree⟩
    | some found =>
      rw [Option.bind_some, ih]
      apply Iff.intro
      · intro h
        obtain ⟨u, v, huv, q, hq, hle⟩ := h
        exact ⟨c :: u, v, congrArg (c :: ·) huv, q, (path_readMoves hsearch).1 hq, hle⟩
      · intro h
        obtain ⟨u, v, huv, q, hq, hle⟩ := h
        cases u with
        | nil =>
          rw [search?_eq_none.2 ⟨q, hq, hle⟩] at hsearch
          cases hsearch
        | cons d u =>
          obtain ⟨rfl, hrest⟩ := List.cons.inj huv
          exact ⟨u, v, hrest, q, (path_readMoves hsearch).2 hq, hle⟩

/-- What is held after a text are the ends of the walks that read it from the start. -/
theorem mem_run? (h : a.simulation.run? text = some ended) :
    ended.Nodup ∧ ∀ q, q ∈ ended ↔ Path a.edges a.start text q := by
  obtain ⟨hnodup, hmem⟩ := mem_follow? h
  refine ⟨hnodup, ?_⟩
  intro q
  rw [hmem]
  simp [automaton_simulation]

theorem run?_eq_none : a.simulation.run? text = none ↔
    ∃ u v, u ++ v = text ∧ ∃ q, Path a.edges a.start u q ∧ a.states ≤ q := by
  rw [run?, follow?_eq_none]
  simp [automaton_simulation]

theorem accepts_iff_spells (h : a.simulation.run? text = some ended) :
    a.accepts text = true ↔ a.Spells text := by
  rw [Automaton.accepts, accepts, run, h, Option.getD_some, List.contains_iff_mem]
  exact (mem_run? h).2 a.accept

/-- A simulation is refused for want of memory, or because an edge leaves a number that is no state. -/
theorem simulation?_eq_none : a.simulation? = none ↔
    capacity < a.states ∨ ∃ e ∈ a.edges, a.states ≤ e.source := by
  simp only [Automaton.simulation?, List.all_eq_true, decide_eq_true_eq, ite_eq_right_iff,
    reduceCtorEq, imp_false, Classical.not_and_iff_not_or_not, Classical.not_forall, Nat.not_le,
    Nat.not_lt, exists_prop]

theorem eq_simulation {s : Simulation} (h : a.simulation? = some s) : s = a.simulation := by
  unfold Automaton.simulation? at h
  split at h
  · exact (Option.some.inj h).symm
  · cases h

end Simulation

namespace Automaton.Proper

variable {a : Automaton}

theorem simulation?_eq_none (ha : a.Proper) :
    a.simulation? = none ↔ Simulation.capacity < a.states := by
  rw [Simulation.simulation?_eq_none, or_iff_left]
  intro h
  obtain ⟨e, he, hle⟩ := h
  exact absurd (ha.source_lt e he) (Nat.not_lt.2 hle)

/-- An automaton of the right shape does not lead out of its states. -/
theorem exists_run? (ha : a.Proper) (text : List Char) :
    ∃ ended, a.simulation.run? text = some ended := by
  cases h : a.simulation.run? text with
  | some ended => exact ⟨ended, rfl⟩
  | none =>
    obtain ⟨u, v, -, q, hpath, hle⟩ := Simulation.run?_eq_none.1 h
    exact absurd (ha.path_lt hpath ha.start_lt) (Nat.not_lt.2 hle)

theorem accepts_iff_spells (ha : a.Proper) {text : List Char} :
    a.accepts text = true ↔ a.Spells text := by
  obtain ⟨ended, h⟩ := ha.exists_run? text
  exact Simulation.accepts_iff_spells h

end Automaton.Proper

end RegexMachine
