import Mathlib.Data.List.Nodup
import RegexMachine.Proofs.Automaton.Shape

namespace RegexMachine

/-- No edge occurs twice, no three edges have the same end, and an edge that reads a character shares its
end with no other. Which end is meant is told by `endpoint`. -/
structure Thin (endpoint : Edge → Nat) (edges : List Edge) : Prop where
  nodup : edges.Nodup
  degree (q : Nat) : edges.countP (endpoint · = q) ≤ 2
  alone : ∀ e ∈ edges, e.label ≠ .epsilon → ∀ f ∈ edges, endpoint f = endpoint e → f = e

namespace Thin

variable {endpoint : Edge → Nat} {xs ys : List Edge}

theorem perm (h : Thin endpoint xs) (hperm : xs.Perm ys) : Thin endpoint ys where
  nodup := hperm.nodup_iff.1 h.nodup
  degree q := hperm.countP_eq (endpoint · = q) ▸ h.degree q
  alone := by
    intro e he hlabel f hf
    exact h.alone e (hperm.mem_iff.2 he) hlabel f (hperm.mem_iff.2 hf)

theorem sublist (h : Thin endpoint ys) (hsub : xs.Sublist ys) : Thin endpoint xs where
  nodup := h.nodup.sublist hsub
  degree q := Nat.le_trans hsub.countP_le (h.degree q)
  alone e he hlabel f hf := h.alone e (hsub.mem he) hlabel f (hsub.mem hf)

/-- Edges without a common end do not disturb each other. -/
theorem append (hx : Thin endpoint xs) (hy : Thin endpoint ys)
    (apart : ∀ e ∈ xs, ∀ f ∈ ys, endpoint e ≠ endpoint f) : Thin endpoint (xs ++ ys) where
  nodup := by
    refine List.nodup_append.2 ⟨hx.nodup, hy.nodup, ?_⟩
    intro e he f hf heq
    exact apart e he f hf (congrArg endpoint heq)
  degree := by
    intro q
    rw [List.countP_append]
    by_cases hq : ∃ e ∈ xs, endpoint e = q
    · obtain ⟨e, he, rfl⟩ := hq
      have hnone : ys.countP (endpoint · = endpoint e) = 0 := by
        rw [List.countP_eq_zero]
        intro f hf hend
        exact apart e he f hf (of_decide_eq_true hend).symm
      have hdegree := hx.degree (endpoint e)
      omega
    · have hnone : xs.countP (endpoint · = q) = 0 := by
        simpa [List.countP_eq_zero] using hq
      have hdegree := hy.degree q
      omega
  alone := by
    intro e he hlabel f hf hend
    rcases List.mem_append.1 he with he | he
    · rcases List.mem_append.1 hf with hf | hf
      · exact hx.alone e he hlabel f hf hend
      · exact absurd hend.symm (apart e he f hf)
    · rcases List.mem_append.1 hf with hf | hf
      · exact absurd hend (apart f hf e he)
      · exact hy.alone e he hlabel f hf hend

theorem relabel {g : Nat → Nat} (hg : ∀ {p q}, g p = g q → p = q)
    (hend : ∀ e, endpoint (e.relabel g) = g (endpoint e)) (h : Thin endpoint xs) :
    Thin endpoint (xs.map (·.relabel g)) where
  nodup := by
    have hinj : Function.Injective (Edge.relabel g) := by
      intro e f hef
      obtain ⟨hsource, hlabel, htarget⟩ := Edge.mk.inj hef
      obtain ⟨p, l, q⟩ := e
      obtain rfl := hg hsource
      obtain rfl := hg htarget
      exact congrArg (Edge.mk f.source · f.target) hlabel
    exact h.nodup.map hinj
  degree := by
    intro q
    rw [List.countP_map]
    by_cases hq : ∃ p, g p = q
    · obtain ⟨p, rfl⟩ := hq
      have hsame : ((endpoint · = g p) ∘ (·.relabel g) : Edge → Bool) = (endpoint · = p) := by
        funext e
        have hiff : g (endpoint e) = g p ↔ endpoint e = p := ⟨hg, congrArg g⟩
        simp [hend, hiff]
      exact hsame ▸ h.degree p
    · have hnone : xs.countP ((endpoint · = q) ∘ (·.relabel g)) = 0 := by
        rw [List.countP_eq_zero]
        intro e _ he
        simp only [Function.comp_apply, hend, decide_eq_true_eq] at he
        exact hq ⟨_, he⟩
      omega
  alone := by
    intro e he hlabel f hf hfe
    obtain ⟨d, hd, rfl⟩ := List.mem_map.1 he
    obtain ⟨c, hc, rfl⟩ := List.mem_map.1 hf
    rw [hend, hend] at hfe
    rw [h.alone d hd hlabel c hc (hg hfe)]

/-- Two free moves may share their ends. -/
theorem pair {p q r s : Nat} (hne : p ≠ r ∨ q ≠ s) :
    Thin endpoint [⟨p, .epsilon, q⟩, ⟨r, .epsilon, s⟩] where
  nodup := by
    have hdistinct : p = r → q ≠ s := by omega
    simpa using hdistinct
  degree _ := List.countP_le_length
  alone := by simp

end Thin

/-- Few edges leave each state, few enter it, and none does both. -/
structure Sparse (edges : List Edge) : Prop where
  leaving : Thin Edge.source edges
  entering : Thin Edge.target edges
  no_loop : ∀ e ∈ edges, e.source ≠ e.target

namespace Sparse

variable {xs ys : List Edge}

theorem perm (h : Sparse xs) (hperm : xs.Perm ys) : Sparse ys :=
  ⟨h.leaving.perm hperm, h.entering.perm hperm, fun e he => h.no_loop e (hperm.mem_iff.2 he)⟩

theorem sublist (h : Sparse ys) (hsub : xs.Sublist ys) : Sparse xs :=
  ⟨h.leaving.sublist hsub, h.entering.sublist hsub, fun e he => h.no_loop e (hsub.mem he)⟩

theorem append (hx : Sparse xs) (hy : Sparse ys)
    (apart : ∀ e ∈ xs, ∀ f ∈ ys, e.source ≠ f.source ∧ e.target ≠ f.target) : Sparse (xs ++ ys) where
  leaving := hx.leaving.append hy.leaving fun e he f hf => (apart e he f hf).1
  entering := hx.entering.append hy.entering fun e he f hf => (apart e he f hf).2
  no_loop := List.forall_mem_append.2 ⟨hx.no_loop, hy.no_loop⟩

theorem relabel {g : Nat → Nat} (hg : ∀ {p q}, g p = g q → p = q) (h : Sparse xs) :
    Sparse (xs.map (·.relabel g)) where
  leaving := h.leaving.relabel hg fun _ => rfl
  entering := h.entering.relabel hg fun _ => rfl
  no_loop := by
    intro d hd hloop
    obtain ⟨e, he, rfl⟩ := List.mem_map.1 hd
    exact h.no_loop e he (hg hloop)

theorem pair {p q r s : Nat} (hne : p ≠ r ∨ q ≠ s) (hfirst : p ≠ q) (hsecond : r ≠ s) :
    Sparse [⟨p, .epsilon, q⟩, ⟨r, .epsilon, s⟩] where
  leaving := Thin.pair hne
  entering := Thin.pair hne
  no_loop := by simp [hfirst, hsecond]

end Sparse

namespace Automaton

variable {a b : Automaton}

theorem sparse_literal (c : Char) : Sparse (literal c).edges := by
  have hone (endpoint : Edge → Nat) : Thin endpoint (literal c).edges := by
    refine ⟨by simp [literal], ?_, by simp [literal]⟩
    intro q
    exact Nat.le_trans List.countP_le_length (by simp [literal])
  exact ⟨hone _, hone _, by simp [literal]⟩

/-- At the shared state the edges that enter come from `a` and those that leave from `b`. -/
theorem sparse_concat (ha : a.Proper) (hb : b.Proper) (hsa : Sparse a.edges) (hsb : Sparse b.edges) :
    Sparse (a.concat b).edges := by
  apply hsa.append (hsb.relabel (splice_inj ha.accept_lt))
  intro e he d hd
  obtain ⟨f, hf, rfl⟩ := List.mem_map.1 hd
  have hlt := ha.target_lt e he
  have hle : a.states ≤ a.splice b f.target := le_splice (hb.no_entry f hf)
  have htarget : e.target ≠ a.splice b f.target := by omega
  have hsource : e.source ≠ a.splice b f.source := by
    by_cases hstart : f.source = b.start
    · rw [hstart, splice_start]
      exact ha.no_exit e he
    · have hlt := ha.source_lt e he
      have hle : a.states ≤ a.splice b f.source := le_splice hstart
      omega
  exact ⟨hsource, htarget⟩

/-- Where the edges of a copy of `a` under higher numbers may begin and end. -/
theorem Proper.copy (ha : a.Proper) {offset : Nat} {e : Edge}
    (he : e ∈ a.edges.map (·.relabel (· + offset))) :
    (offset ≤ e.source ∧ e.source < a.states + offset ∧ e.source ≠ a.accept + offset) ∧
      offset ≤ e.target ∧ e.target < a.states + offset ∧ e.target ≠ a.start + offset := by
  obtain ⟨f, hf, rfl⟩ := List.mem_map.1 he
  have hsource := ha.source_lt f hf
  have htarget := ha.target_lt f hf
  have hentry := ha.no_entry f hf
  have hexit := ha.no_exit f hf
  simp only [Edge.relabel]
  omega

/-- The new start and the new accepting state have two edges each. In between, an operand gets one edge
in front of its start and one behind its accepting state. -/
theorem sparse_union (ha : a.Proper) (hb : b.Proper) (hsa : Sparse a.edges) (hsb : Sparse b.edges) :
    Sparse (a.union b).edges := by
  have hstart := ha.start_lt
  have haccept := ha.accept_lt
  have hstart' := hb.start_lt
  have haccept' := hb.accept_lt
  have hfirst : Sparse [⟨0, .epsilon, a.start + 1⟩, ⟨0, .epsilon, b.start + (a.states + 1)⟩] :=
    Sparse.pair (by omega) (by omega) (by omega)
  have hlast : Sparse [⟨a.accept + 1, .epsilon, a.states + b.states + 1⟩,
      ⟨b.accept + (a.states + 1), .epsilon, a.states + b.states + 1⟩] :=
    Sparse.pair (by omega) (by omega) (by omega)
  refine ((hfirst.append (hsa.relabel Nat.add_right_cancel) ?_).append
    (hsb.relabel Nat.add_right_cancel) ?_).append hlast ?_
  · intro e he f hf
    have hf := ha.copy hf
    rcases List.mem_pair.1 he with rfl | rfl
    · dsimp only; omega
    · dsimp only; omega
  · intro e he f hf
    have hf := hb.copy hf
    rcases List.mem_append.1 he with he | he
    · rcases List.mem_pair.1 he with rfl | rfl
      · dsimp only; omega
      · dsimp only; omega
    · have he := ha.copy he
      omega
  · intro e he f hf
    rw [List.append_assoc] at he
    have he : e.source ≠ a.accept + 1 ∧ e.source ≠ b.accept + (a.states + 1) ∧
        e.target < a.states + b.states + 1 := by
      rcases List.mem_append.1 he with he | he
      · rcases List.mem_pair.1 he with rfl | rfl
        · dsimp only; omega
        · dsimp only; omega
      · rcases List.mem_append.1 he with he | he
        · have he := ha.copy he
          omega
        · have he := hb.copy he
          omega
    rcases List.mem_pair.1 hf with rfl | rfl
    · dsimp only; omega
    · dsimp only; omega

/-- The edges that a star adds to its operand, two at each of four states. -/
theorem sparse_frame (ha : a.Proper) (hne : a.start ≠ a.accept) :
    Sparse [⟨0, .epsilon, a.states + 1⟩, ⟨0, .epsilon, a.start + 1⟩,
      ⟨a.accept + 1, .epsilon, a.start + 1⟩, ⟨a.accept + 1, .epsilon, a.states + 1⟩] := by
  have hstart := ha.start_lt
  have haccept := ha.accept_lt
  refine ⟨?_, ?_, ?_⟩
  · have hfork : Thin Edge.source [⟨0, .epsilon, a.states + 1⟩, ⟨0, .epsilon, a.start + 1⟩] :=
      Thin.pair (by omega)
    have hround : Thin Edge.source [⟨a.accept + 1, .epsilon, a.start + 1⟩,
        ⟨a.accept + 1, .epsilon, a.states + 1⟩] := Thin.pair (by omega)
    exact hfork.append hround (by simp)
  · have hlast : Thin Edge.target [⟨0, .epsilon, a.states + 1⟩,
        ⟨a.accept + 1, .epsilon, a.states + 1⟩] := Thin.pair (by omega)
    have hfirst : Thin Edge.target [⟨0, .epsilon, a.start + 1⟩,
        ⟨a.accept + 1, .epsilon, a.start + 1⟩] := Thin.pair (by omega)
    have happ := hlast.append hfirst (by simp; omega)
    exact happ.perm ((List.perm_append_singleton _ _).symm.cons _)
  · simp
    omega

theorem sparse_star (ha : a.Proper) (hne : a.start ≠ a.accept) (hsa : Sparse a.edges) :
    Sparse a.star.edges := by
  have hwhole := (sparse_frame ha hne).append (hsa.relabel (g := (· + 1)) Nat.add_right_cancel) ?_
  · apply hwhole.perm
    change List.Perm ([_, _] ++ ([_, _] ++ _)) (([_, _] ++ _) ++ [_, _])
    rw [List.append_assoc]
    exact List.perm_append_comm.append_left _
  · intro e he f hf
    have hf := ha.copy hf
    have haccept := ha.accept_lt
    simp only [List.mem_cons, List.not_mem_nil, or_false] at he
    rcases he with rfl | rfl | rfl | rfl
    all_goals dsimp only; omega

theorem sparse_plus (ha : a.Proper) (hne : a.start ≠ a.accept) (hsa : Sparse a.edges) :
    Sparse a.plus.edges :=
  (sparse_star ha hne hsa).sublist (List.sublist_cons_self _ _)

end Automaton

end RegexMachine
