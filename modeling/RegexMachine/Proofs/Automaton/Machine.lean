import Mathlib.Tactic.SplitIfs
import RegexMachine.Automaton.Machine
import RegexMachine.Proofs.Automaton.Shape

namespace RegexMachine

theorem mapM_relabel? {f : Nat → Option Nat} {g : Nat → Nat} {edges : List Edge}
    (h : ∀ e ∈ edges, f e.source = some (g e.source) ∧ f e.target = some (g e.target)) :
    edges.mapM (·.relabel? f) = some (edges.map (·.relabel g)) := by
  induction edges with
  | nil => rfl
  | cons e edges ih =>
    obtain ⟨⟨hsource, htarget⟩, hedges⟩ := List.forall_mem_cons.1 h
    have he : e.relabel? f = some (e.relabel g) := by
      simp [Edge.relabel?, Edge.relabel, hsource, htarget]
    simp [List.mapM_cons, he, ih hedges]

theorem forM_eq_some {f : Edge → Option Unit} {edges : List Edge} (h : ∀ e ∈ edges, f e = some ()) :
    edges.forM f = some () := by
  induction edges with
  | nil => rfl
  | cons e edges ih =>
    obtain ⟨he, hedges⟩ := List.forall_mem_cons.1 h
    change (f e >>= fun _ => edges.forM f) = some ()
    rw [he, ih hedges]
    rfl

namespace Automaton

variable {k : Build} {a b : Automaton}

/-- No assertion fails on an automaton of the right shape. -/
theorem Proper.assemble? (ha : a.Proper) :
    assemble? k a.states a.edges a.start a.accept = some a := by
  have hpos : max a.states 1 = a.states := Nat.max_eq_left (Nat.zero_lt_of_lt ha.accept_lt)
  have hedges : (a.edges.forM fun e => do
      k.assert? (e.source < a.states)
      k.assert? (e.target < a.states)) = some () := by
    apply forM_eq_some
    intro e he
    rw [Build.assert?_of (decide_eq_true (ha.source_lt e he)),
      Build.assert?_of (decide_eq_true (ha.target_lt e he))]
    rfl
  simp only [Automaton.assemble?, hpos, hedges, Build.assert?_of (decide_eq_true ha.start_lt),
    Build.assert?_of (decide_eq_true ha.accept_lt)]
  rfl

/-- What lies behind the start of `b` is above zero. -/
theorem splice?_eq_some {q : Nat} (h : a.states + q < Word.size) :
    a.splice? k b q = some (a.splice b q) := by
  unfold splice? splice
  split_ifs with hstart hlt
  · rfl
  · rw [Build.add?_of_lt h]
    exact Build.pred?_of_pos (by omega)
  · exact Build.add?_of_lt h

theorem concat?_eq_some (ha : a.Proper) (hb : b.Proper) (h : a.states + b.states < Word.size) :
    a.concat? k b = some (a.concat b) := by
  have hstates : (k.add? a.states b.states >>= k.pred?) = some (a.states + b.states - 1) := by
    have hpos := ha.start_lt
    rw [Build.add?_of_lt h]
    exact Build.pred?_of_pos (by omega)
  have hsplice (q : Nat) (hq : q < b.states) : a.splice? k b q = some (a.splice b q) :=
    splice?_eq_some (by omega)
  have hmoved : b.edges.mapM (·.relabel? (a.splice? k b))
      = some (b.edges.map (·.relabel (a.splice b))) :=
    mapM_relabel? fun e he => ⟨hsplice _ (hb.source_lt e he), hsplice _ (hb.target_lt e he)⟩
  have hassemble := (proper_concat ha hb).assemble? (k := k)
  unfold concat?
  rw [← bind_assoc, hstates, hmoved, hsplice _ hb.accept_lt]
  exact hassemble

theorem concat?_eq_none (h : Word.size ≤ a.states + b.states) : a.concat? .checked b = none := by
  unfold concat?
  rw [Build.add?_eq_none h]
  rfl

theorem mapM_add? {n : Nat} (ha : a.Proper) (h : a.states + n < Word.size) :
    a.edges.mapM (·.relabel? (k.add? · n)) = some (a.edges.map (·.relabel (· + n))) := by
  apply mapM_relabel?
  intro e he
  have hsource := ha.source_lt e he
  have htarget := ha.target_lt e he
  exact ⟨Build.add?_of_lt (by omega), Build.add?_of_lt (by omega)⟩

theorem union?_eq_some (ha : a.Proper) (hb : b.Proper) (h : a.states + b.states + 2 < Word.size) :
    a.union? k b = some (a.union b) := by
  have hsa := ha.start_lt
  have hta := ha.accept_lt
  have hsb := hb.start_lt
  have htb := hb.accept_lt
  have hassemble := (proper_union ha hb).assemble? (k := k)
  unfold union?
  rw [Build.add?_of_lt (by omega : 1 + a.states < Word.size), Nat.add_comm 1 a.states]
  simp only [Option.bind_eq_bind, Option.bind_some,
    Build.add?_of_lt (by omega : a.states + b.states < Word.size),
    Build.add?_of_lt (by omega : a.states + b.states + 1 < Word.size), Build.add?_of_lt h,
    Build.add?_of_lt (by omega : a.start + 1 < Word.size),
    Build.add?_of_lt (by omega : b.start + (a.states + 1) < Word.size),
    Build.add?_of_lt (by omega : a.accept + 1 < Word.size),
    Build.add?_of_lt (by omega : b.accept + (a.states + 1) < Word.size),
    mapM_add? ha (by omega : a.states + 1 < Word.size),
    mapM_add? hb (by omega : b.states + (a.states + 1) < Word.size)]
  exact hassemble

theorem union?_eq_none (h : Word.size ≤ a.states + b.states + 2) : a.union? .checked b = none := by
  unfold union?
  cases Build.checked.add? 1 a.states with
  | none => rfl
  | some offset =>
    by_cases hsum : a.states + b.states < Word.size
    · simp only [Option.bind_eq_bind, Option.bind_some, Build.add?_of_lt hsum, Build.add?_eq_none h]
      cases Build.checked.add? (a.states + b.states) 1 <;> rfl
    · rw [Build.add?_eq_none (Nat.le_of_not_lt hsum)]
      rfl

theorem loop?_eq_some {bypass : Nat → List Edge} (ha : a.Proper)
    (hloop : (a.loop (bypass (a.states + 1))).Proper) (h : a.states + 2 < Word.size) :
    a.loop? k bypass = some (a.loop (bypass (a.states + 1))) := by
  have hs := ha.start_lt
  have ht := ha.accept_lt
  have hassemble := hloop.assemble? (k := k)
  unfold loop?
  simp only [Option.bind_eq_bind, Option.bind_some, Build.add?_of_lt h,
    Build.add?_of_lt (by omega : a.states + 1 < Word.size),
    Build.add?_of_lt (by omega : a.start + 1 < Word.size),
    Build.add?_of_lt (by omega : a.accept + 1 < Word.size),
    mapM_add? ha (by omega : a.states + 1 < Word.size)]
  exact hassemble

theorem loop?_eq_none {bypass : Nat → List Edge} (h : Word.size ≤ a.states + 2) :
    a.loop? .checked bypass = none := by
  unfold loop?
  rw [Build.add?_eq_none h]
  cases Build.checked.add? a.states 1 <;> rfl

theorem star?_eq_some (ha : a.Proper) (h : a.states + 2 < Word.size) : a.star? k = some a.star :=
  loop?_eq_some ha (proper_star ha) h

theorem star?_eq_none (h : Word.size ≤ a.states + 2) : a.star? .checked = none := loop?_eq_none h

theorem plus?_eq_some (ha : a.Proper) (h : a.states + 2 < Word.size) : a.plus? k = some a.plus :=
  loop?_eq_some ha (proper_plus ha) h

theorem plus?_eq_none (h : Word.size ≤ a.states + 2) : a.plus? .checked = none := loop?_eq_none h

theorem concat?_checked {c : Automaton} (ha : a.Proper) (hb : b.Proper) :
    a.concat? .checked b = some c ↔ a.states + b.states < Word.size ∧ a.concat b = c :=
  Word.eq_some_iff (concat?_eq_some ha hb) concat?_eq_none

theorem union?_checked {c : Automaton} (ha : a.Proper) (hb : b.Proper) :
    a.union? .checked b = some c ↔ a.states + b.states + 2 < Word.size ∧ a.union b = c :=
  Word.eq_some_iff (union?_eq_some ha hb) union?_eq_none

theorem star?_checked (ha : a.Proper) :
    a.star? .checked = some b ↔ a.states + 2 < Word.size ∧ a.star = b :=
  Word.eq_some_iff (star?_eq_some ha) star?_eq_none

theorem plus?_checked (ha : a.Proper) :
    a.plus? .checked = some b ↔ a.states + 2 < Word.size ∧ a.plus = b :=
  Word.eq_some_iff (plus?_eq_some ha) plus?_eq_none

end Automaton

end RegexMachine
