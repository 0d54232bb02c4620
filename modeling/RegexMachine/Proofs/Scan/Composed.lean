import RegexMachine.Proofs.Automaton.Shape
import RegexMachine.Proofs.Scan.Collapse
import RegexMachine.Proofs.Scan.Step

namespace RegexMachine

/-- The automata that the scan makes, from literals alone. -/
inductive Composed : Automaton → Prop where
  | literal (c : Char) : Composed (.literal c)
  | concat {a b : Automaton} (ha : Composed a) (hb : Composed b) : Composed (a.concat b)
  | union {a b : Automaton} (ha : Composed a) (hb : Composed b) : Composed (a.union b)
  | star {a : Automaton} (ha : Composed a) : Composed a.star
  | plus {a : Automaton} (ha : Composed a) : Composed a.plus

theorem Composed.proper {a : Automaton} (ha : Composed a) : a.Proper := by
  induction ha with
  | literal c => exact Automaton.proper_literal c
  | concat _ _ iha ihb => exact Automaton.proper_concat iha ihb
  | union _ _ iha ihb => exact Automaton.proper_union iha ihb
  | star _ ih => exact Automaton.proper_star ih
  | plus _ ih => exact Automaton.proper_plus ih

namespace Level

variable {level : List Operator} {operands out : List Automaton}

/-- The concatenations directly before a union are none of the unions of the level. -/
theorem count_dropWhile (level : List Operator) :
    (level.dropWhile (· = .concat)).count .union = level.count .union := by
  induction level with
  | nil => rfl
  | cons operator level ih =>
    cases operator with
    | concat => simpa using ih
    | union => rfl

/-- The states of all operands. -/
def load : List Automaton → Nat
  | [] => 0
  | a :: below => a.states + load below

theorem load_cons (a : Automaton) (below : List Automaton) :
    load (a :: below) = a.states + load below := rfl

theorem load_append (above below : List Automaton) :
    load (above ++ below) = load above + load below := by
  induction above with
  | nil => simp [load]
  | cons a above ih => simp only [List.cons_append, load_cons, ih, Nat.add_assoc]

theorem states_foldr_concat (factors : List Automaton) (first : Automaton) :
    (factors.foldr (fun factor left => left.concat factor) first).states
      ≤ load factors + first.states := by
  induction factors with
  | nil => simp [load]
  | cons factor factors ih =>
    have hjoin : ((factor :: factors).foldr (fun factor left => left.concat factor) first).states
        = (factors.foldr (fun factor left => left.concat factor) first).states
          + factor.states - 1 := rfl
    rw [hjoin, load_cons]
    omega

/-- Each union of a level adds at most two states, and the concatenations add none. -/
theorem load_collapse (h : (collapse level operands).result = .ok out) :
    load out ≤ load operands + 2 * level.count .union := by
  induction level, operands using collapse.induct with
  | case1 operands =>
    obtain rfl := collapse_nil_eq_ok.1 h
    simp
  | case2 level operands ih =>
    obtain ⟨right, left, below, rfl, hrest⟩ := collapse_concat_eq_ok.1 h
    have hout := ih _ hrest
    have hcount : (Operator.concat :: level).count .union = level.count .union := by simp
    simp only [load_cons, Automaton.concat] at hout ⊢
    omega
  | case3 level operands ih =>
    obtain ⟨right, factors, first, below, rfl, -, hrest⟩ := collapse_union_eq_ok.1 h
    have hout := ih _ hrest
    have hleft := states_foldr_concat factors first
    have hcount : (Operator.union :: level).count .union
        = (level.dropWhile (· = .concat)).count .union + 1 := by
      rw [List.count_cons_self, count_dropWhile]
    simp only [load_cons, load_append, Automaton.union] at hout ⊢
    omega

end Level

namespace Scan

variable {s t : Scan} {c : Char} {text : List Char}

/-- How many unions wait on all levels. -/
def bars (s : Scan) : Nat := s.level.count .union + s.outer.flatten.count .union

theorem count_joined (s : Scan) : s.joined.count .union = s.level.count .union := by
  unfold joined
  cases s.joins
  · rfl
  · simp

theorem composed_step (h : Step s c t) (hs : ∀ a ∈ s.operands, Composed a) :
    ∀ a ∈ t.operands, Composed a := by
  cases h with
  | space => exact hs
  | star top =>
    rw [top] at hs
    obtain ⟨hlast, hbelow⟩ := List.forall_mem_cons.1 hs
    exact List.forall_mem_cons.2 ⟨.star hlast, hbelow⟩
  | plus top =>
    rw [top] at hs
    obtain ⟨hlast, hbelow⟩ := List.forall_mem_cons.1 hs
    exact List.forall_mem_cons.2 ⟨.plus hlast, hbelow⟩
  | opening => exact hs
  | closing _ collapsed => exact Level.forall_collapse .concat .union hs collapsed
  | bar => exact hs
  | operand _ => exact List.forall_mem_cons.2 ⟨.literal _, hs⟩

theorem composed_readAll (h : (({} : Scan).readAll text).result = .ok s) :
    ∀ a ∈ s.operands, Composed a :=
  invariant_of_readAll composed_step h (by simp)

theorem composed_compile {expression : List Char} {a : Automaton}
    (h : (compile expression).result = .ok a) : Composed a := by
  obtain ⟨s, hs, hfinish⟩ := compile_eq_ok.1 h
  obtain ⟨-, below, collapsed⟩ := finish_eq_ok.1 hfinish
  exact Level.forall_collapse .concat .union (composed_readAll hs) collapsed a (by simp)

/-- A character makes at most two states, now or when its union is applied. -/
theorem load_step (h : Step s c t) :
    Level.load t.operands + 2 * t.bars ≤ Level.load s.operands + 2 * s.bars + 2 := by
  cases h with
  | space => simp only [bars]; omega
  | star top => simp only [top, Level.load_cons, bars, Automaton.star, Automaton.loop]; omega
  | plus top => simp only [top, Level.load_cons, bars, Automaton.plus, Automaton.loop]; omega
  | opening =>
    have hjoined := s.count_joined
    simp only [bars, List.flatten_cons, List.count_append, List.count_nil]
    omega
  | closing inside collapsed =>
    have hload := Level.load_collapse collapsed
    simp only [bars, inside, List.flatten_cons, List.count_append] at hload ⊢
    omega
  | bar => simp only [bars, List.count_cons_self]; omega
  | operand hc =>
    have hjoined := s.count_joined
    simp only [Level.load_cons, bars, Automaton.literal]
    omega

theorem load_readAll (h : (s.readAll text).result = .ok t) :
    Level.load t.operands + 2 * t.bars ≤ Level.load s.operands + 2 * s.bars + 2 * text.length := by
  induction text generalizing s with
  | nil => rw [readAll_nil_eq_ok.1 h]; simp
  | cons c text ih =>
    obtain ⟨next, hstep, hrest⟩ := readAll_cons_eq_ok.1 h
    have hc := load_step hstep
    have hload := ih hrest
    rw [List.length_cons]
    omega

/-- No operand of a scan has more states than twice the characters read. -/
theorem states_readAll (h : (({} : Scan).readAll text).result = .ok s) {a : Automaton}
    (ha : a ∈ s.operands) : a.states ≤ 2 * text.length := by
  have hload := load_readAll h
  have hempty : Level.load ({} : Scan).operands + 2 * ({} : Scan).bars = 0 := rfl
  obtain ⟨above, below, hsplit⟩ := List.append_of_mem ha
  rw [hsplit, Level.load_append, Level.load_cons] at hload
  omega

theorem states_compile {expression : List Char} {a : Automaton}
    (h : (compile expression).result = .ok a) : a.states ≤ 2 * expression.length := by
  obtain ⟨s, hread, hfinish⟩ := compile_eq_ok.1 h
  obtain ⟨houter, below, collapsed⟩ := finish_eq_ok.1 hfinish
  have hload := load_readAll hread
  have hempty : Level.load ({} : Scan).operands + 2 * ({} : Scan).bars = 0 := rfl
  have hout := Level.load_collapse collapsed
  have hbars : s.bars = s.level.count .union := by simp [bars, houter]
  rw [Level.load_cons] at hout
  omega

end Scan

end RegexMachine
