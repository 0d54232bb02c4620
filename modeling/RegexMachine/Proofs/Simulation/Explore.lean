import RegexMachine.Simulation.Frontier

namespace RegexMachine.Frontier

/-- The marks agree with the lists of states: those met are the pending ones and those left. -/
structure Marks (f : Frontier) (left : List Nat) : Prop where
  nodup : (f.pending ++ left).Nodup
  met (q : Nat) : f.seen[q]? = some true ↔ q ∈ f.pending ++ left

variable {f g : Frontier} {q : Nat} {qs left out : List Nat} {seen : Array Bool}
  {next : Nat → List Nat}

theorem marks_empty (states : Nat) : Marks (empty states) [] where
  nodup := List.nodup_nil
  met q := by simp [empty, Array.getElem?_replicate]

theorem meet?_new (h : f.seen[q]? = some false) :
    f.meet? q = some ⟨f.seen.setIfInBounds q true, q :: f.pending⟩ := by
  simp only [meet?, h]

theorem meet?_old (h : f.seen[q]? = some true) : f.meet? q = some f := by
  simp only [meet?, h]

theorem meet?_eq_none : f.meet? q = none ↔ f.seen.size ≤ q := by
  rw [← Array.getElem?_eq_none_iff]
  cases h : f.seen[q]? with
  | none => simp only [meet?, h]
  | some met =>
    cases met with
    | false => simp [meet?_new h]
    | true => simp [meet?_old h]

theorem Marks.insert (h : Marks f left) (hq : f.seen[q]? = some false) :
    Marks ⟨f.seen.setIfInBounds q true, q :: f.pending⟩ left := by
  obtain ⟨hsize, -⟩ := Array.getElem?_eq_some_iff.1 hq
  have fresh : q ∉ f.pending ++ left := by
    intro hmem
    have hmet := (h.met q).2 hmem
    rw [hq] at hmet
    cases hmet
  refine ⟨List.nodup_cons.2 ⟨fresh, h.nodup⟩, ?_⟩
  intro r
  have hmet := h.met r
  by_cases hr : r = q
  · subst hr
    simp [hsize]
  · have hne : q ≠ r := fun h => hr h.symm
    simp only [Array.getElem?_setIfInBounds_ne hne, hmet, List.cons_append, List.mem_cons, hr,
      false_or]

/-- One state more is met, unless it was met before. -/
theorem Marks.meet? (h : Marks f left) (hmeet : f.meet? q = some g) :
    Marks g left ∧ g.seen.size = f.seen.size ∧
      ∀ r, r ∈ g.pending ++ left ↔ r ∈ f.pending ++ left ∨ r = q := by
  cases hq : f.seen[q]? with
  | none => simp only [Frontier.meet?, hq, reduceCtorEq] at hmeet
  | some met =>
    cases met with
    | false =>
      cases (meet?_new hq).symm.trans hmeet
      refine ⟨h.insert hq, Array.size_setIfInBounds, ?_⟩
      intro r
      rw [List.cons_append, List.mem_cons, or_comm]
    | true =>
      cases (meet?_old hq).symm.trans hmeet
      have hmem := (h.met q).1 hq
      refine ⟨h, rfl, ?_⟩
      intro r
      exact ⟨.inl, fun hr => hr.elim id fun heq => heq ▸ hmem⟩

theorem Marks.foldlM_meet? (h : Marks f left) (hmeet : qs.foldlM Frontier.meet? f = some g) :
    Marks g left ∧ g.seen.size = f.seen.size ∧
      ∀ r, r ∈ g.pending ++ left ↔ r ∈ f.pending ++ left ∨ r ∈ qs := by
  induction qs generalizing f with
  | nil =>
    cases hmeet
    simp [h]
  | cons q qs ih =>
    obtain ⟨mid, hfirst, hrest⟩ := Option.bind_eq_some_iff.1 hmeet
    obtain ⟨hmid, hsize, hmem⟩ := h.meet? hfirst
    obtain ⟨hg, hsizes, hmems⟩ := ih hmid hrest
    refine ⟨hg, hsizes.trans hsize, ?_⟩
    intro r
    rw [hmems, hmem, List.mem_cons, or_assoc]

/-- States can be met, and nothing else can. -/
theorem foldlM_meet?_eq_none (h : Marks f left) :
    qs.foldlM meet? f = none ↔ ∃ q ∈ qs, f.seen.size ≤ q := by
  induction qs generalizing f with
  | nil => simp
  | cons q qs ih =>
    rw [List.foldlM_cons]
    cases hmeet : f.meet? q with
    | none => simp [meet?_eq_none.1 hmeet]
    | some mid =>
      obtain ⟨hmid, hsize, -⟩ := h.meet? hmeet
      have hq : ¬f.seen.size ≤ q := fun hq => by
        rw [meet?_eq_none.2 hq] at hmeet
        cases hmeet
      have hrest := ih hmid
      rw [hsize] at hrest
      simpa [hq] using hrest

/-- A pending state is left. -/
theorem Marks.leave {pending : List Nat} (h : Marks ⟨seen, q :: pending⟩ left) :
    Marks ⟨seen, pending⟩ (q :: left) := by
  have hperm : (pending ++ q :: left).Perm (q :: pending ++ left) := List.perm_middle
  refine ⟨hperm.nodup_iff.2 h.nodup, ?_⟩
  intro r
  rw [hperm.mem_iff]
  exact h.met r

theorem Marks.step {pending : List Nat} (h : Marks ⟨seen, q :: pending⟩ left)
    (hmeet : (next q).foldlM Frontier.meet? ⟨seen, pending⟩ = some g) :
    Marks g (q :: left) ∧ g.seen.size = seen.size ∧
      ∀ r, r ∈ g.pending ++ q :: left ↔ r ∈ q :: pending ++ left ∨ r ∈ next q := by
  obtain ⟨hmarks, hsize, hmem⟩ := h.leave.foldlM_meet? hmeet
  refine ⟨hmarks, hsize, ?_⟩
  intro r
  rw [hmem, List.perm_middle.mem_iff]
  rfl

theorem Marks.lt_size (h : Marks f left) (hq : q ∈ f.pending ++ left) : q < f.seen.size :=
  (Array.getElem?_eq_some_iff.1 ((h.met q).2 hq)).1

theorem explore?_nil : explore? next ⟨seen, []⟩ left = some (seen, left) := by rw [explore?]

theorem explore?_cons {pending : List Nat} :
    explore? next ⟨seen, q :: pending⟩ left
      = ((next q).foldlM meet? ⟨seen, pending⟩).bind fun f => explore? next f (q :: left) := by
  rw [explore?]
  split <;> simp_all only [Option.bind_none, Option.bind_some]

/-- What leaving a state preserves holds when the search is over; then all that was met has been left. -/
theorem Marks.invariant {I : Frontier → List Nat → Prop} (h : Marks f left)
    (hrun : explore? next f left = some (seen, out)) (start : I f left)
    (leave : ∀ seen q pending left g, I ⟨seen, q :: pending⟩ left → g.seen.size = seen.size →
      (∀ r, r ∈ g.pending ++ q :: left ↔ r ∈ q :: pending ++ left ∨ r ∈ next q) →
      I g (q :: left)) :
    Marks ⟨seen, []⟩ out ∧ I ⟨seen, []⟩ out := by
  induction f, left using explore?.induct next with
  | case1 =>
    cases explore?_nil.symm.trans hrun
    exact ⟨h, start⟩
  | case2 _ _ _ _ hnone =>
    rw [explore?_cons, hnone] at hrun
    cases hrun
  | case3 _ _ _ _ _ hmeet ih =>
    obtain ⟨hmarks, hsize, hmem⟩ := h.step hmeet
    rw [explore?_cons, hmeet] at hrun
    exact ih hmarks hrun (leave _ _ _ _ _ start hsize hmem)

theorem marks_explore? (h : Marks f left) (hrun : explore? next f left = some (seen, out)) :
    Marks ⟨seen, []⟩ out ∧ seen.size = f.seen.size := by
  apply h.invariant (I := fun g _ => g.seen.size = f.seen.size) hrun rfl
  intro _ _ _ _ _ hsize hleave _
  exact hleave.trans hsize

theorem subset_explore? (h : Marks f left) (hrun : explore? next f left = some (seen, out)) :
    f.pending ++ left ⊆ out := by
  apply (h.invariant (I := fun g rest => f.pending ++ left ⊆ g.pending ++ rest) hrun
    (List.Subset.refl _) ?_).2
  intro _ _ _ _ _ hsub _ hmem r hr
  exact (hmem r).2 (.inl (hsub hr))

/-- The search is over only when nothing more follows. -/
theorem closed_explore? (h : Marks f left) (hleft : ∀ q ∈ left, next q ⊆ f.pending ++ left)
    (hrun : explore? next f left = some (seen, out)) : ∀ q ∈ out, next q ⊆ out := by
  apply (h.invariant (I := fun g rest => ∀ q ∈ rest, next q ⊆ g.pending ++ rest) hrun hleft ?_).2
  intro _ q _ rest _ hrest _ hmem p hp r hr
  apply (hmem r).2
  rcases List.mem_cons.1 hp with rfl | hp
  · exact .inr hr
  · exact .inl (hrest p hp hr)

theorem forall_explore? {P : Nat → Prop} (h : Marks f left)
    (hfound : ∀ q ∈ f.pending ++ left, P q) (hnext : ∀ q, P q → ∀ r ∈ next q, P r)
    (hrun : explore? next f left = some (seen, out)) : ∀ q ∈ out, P q := by
  apply (h.invariant (I := fun g rest => ∀ q ∈ g.pending ++ rest, P q) hrun hfound ?_).2
  intro _ q _ _ _ hpart _ hmem r hr
  rcases (hmem r).1 hr with hr | hr
  · exact hpart r hr
  · exact hnext q (hpart q (by simp)) r hr

/-- A search fails only if it was led to a number that is no state. -/
theorem exists_of_explore?_eq_none {P : Nat → Prop} (h : Marks f left)
    (hfound : ∀ q ∈ f.pending ++ left, P q) (hnext : ∀ q, P q → ∀ r ∈ next q, P r)
    (hrun : explore? next f left = none) : ∃ q, P q ∧ f.seen.size ≤ q := by
  induction f, left using explore?.induct next with
  | case1 =>
    rw [explore?_nil] at hrun
    cases hrun
  | case2 seen q pending left hnone =>
    obtain ⟨r, hr, hle⟩ := (foldlM_meet?_eq_none h.leave).1 hnone
    exact ⟨r, hnext q (hfound q (by simp)) r hr, hle⟩
  | case3 seen q pending left f hmeet ih =>
    obtain ⟨hmarks, hsize, hmem⟩ := h.step hmeet
    rw [explore?_cons, hmeet] at hrun
    rw [← hsize]
    apply ih hmarks ?_ hrun
    intro r hr
    rcases (hmem r).1 hr with hr | hr
    · exact hfound r hr
    · exact hnext q (hfound q (by simp)) r hr

end RegexMachine.Frontier
