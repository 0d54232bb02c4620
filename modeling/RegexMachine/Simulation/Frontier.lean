namespace RegexMachine

/-- A search under way: which states below `seen.size` were met so far, and those among them that were not
left yet, last met first. -/
structure Frontier where
  seen : Array Bool
  pending : List Nat

namespace Frontier

/-- No state is met yet. -/
def empty (states : Nat) : Frontier := ⟨Array.replicate states false, []⟩

/-- A state that is met for the first time becomes pending. What is met is left later, and a number that is
no state could not be left. -/
def meet? : Frontier → Nat → Option Frontier
  | ⟨seen, pending⟩, q =>
    match seen[q]? with
    | some false => some ⟨seen.setIfInBounds q true, q :: pending⟩
    | some true => some ⟨seen, pending⟩
    | none => none

/-- How many states can still be left: those that are pending and those that are not met yet. -/
def work (f : Frontier) : Nat := f.seen.count false + f.pending.length

theorem work_meet? {f g : Frontier} {q : Nat} (h : f.meet? q = some g) : g.work = f.work := by
  obtain ⟨seen, pending⟩ := f
  simp only [meet?] at h
  split at h
  · rename_i hseen
    cases h
    obtain ⟨hq, hv⟩ := Array.getElem?_eq_some_iff.1 hseen
    have hpos : 0 < seen.count false := Array.count_pos_iff.2 (hv ▸ Array.getElem_mem hq)
    simp only [work, Array.setIfInBounds, dif_pos hq, List.length_cons, Array.count_set, hv]
    simp
    omega
  · cases h
    rfl
  · cases h

theorem work_foldlM_meet? {f g : Frontier} {qs : List Nat} (h : qs.foldlM meet? f = some g) :
    g.work = f.work := by
  induction qs generalizing f with
  | nil => rw [Option.some.inj h]
  | cons q qs ih =>
    obtain ⟨next, hmeet, hrest⟩ := Option.bind_eq_some_iff.1 h
    rw [ih hrest, work_meet? hmeet]

/-- Leaves the pending states one by one, meeting at each the states that `next` leads to, until none is
pending. The result is what was met, and `left` with every state that was left in front, the last one
first. -/
def explore? (next : Nat → List Nat) : Frontier → List Nat → Option (Array Bool × List Nat)
  | ⟨seen, []⟩, left => some (seen, left)
  | ⟨seen, q :: pending⟩, left =>
    match _ : (next q).foldlM meet? ⟨seen, pending⟩ with
    | none => none
    | some f => explore? next f (q :: left)
termination_by f => f.work
decreasing_by
  rename_i hmeet
  rw [work_foldlM_meet? hmeet]
  simp [work]

end Frontier

end RegexMachine
