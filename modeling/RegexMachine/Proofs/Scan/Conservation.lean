import Mathlib.Algebra.Group.Commute.Basic
import RegexMachine.Proofs.Scan.Composed
import RegexMachine.Proofs.Scan.Counts

namespace RegexMachine

/-- A quantity that a sequence adds up, to which a choice and a repetition add something of their own.
Only what a choice adds is added late, out of the order of the text. -/
structure Quantity (M : Type) [AddMonoid M] where
  amount : Automaton → M
  bar : M
  star : M
  plus : M
  amount_concat {a b : Automaton} (ha : Composed a) (hb : Composed b) :
    amount (a.concat b) = amount a + amount b
  amount_union {a b : Automaton} (ha : Composed a) (hb : Composed b) :
    amount (a.union b) = amount a + amount b + bar
  amount_star {a : Automaton} (ha : Composed a) : amount a.star = amount a + star
  amount_plus {a : Automaton} (ha : Composed a) : amount a.plus = amount a + plus
  bar_comm (x : M) : AddCommute bar x

namespace Quantity

variable {M : Type} [AddMonoid M] (m : Quantity M)

/-- What a character brings in. -/
def brought (c : Char) : M :=
  if isOperand c then m.amount (.literal c)
  else if c = '|' then m.bar
  else if c = '*' then m.star
  else if c = '+' then m.plus
  else 0

/-- What the operands hold, from the first to the last. -/
def held (operands : List Automaton) : M := (operands.reverse.map m.amount).sum

theorem held_cons (a : Automaton) (below : List Automaton) :
    m.held (a :: below) = m.held below + m.amount a := by
  simp [held]

/-- Joining a run of operands changes nothing of what they hold. -/
theorem held_foldr {factors : List Automaton} {first : Automaton}
    (hfactors : ∀ a ∈ factors, Composed a) (hfirst : Composed first) (below : List Automaton) :
    m.held (factors.foldr (fun factor left => left.concat factor) first :: below)
      = m.held (factors ++ first :: below) := by
  induction factors with
  | nil => rfl
  | cons factor factors ih =>
    obtain ⟨hfactor, hfactors⟩ := List.forall_mem_cons.1 hfactors
    have hleft := Level.forall_foldr Composed.concat hfactors hfirst
    have hrest := ih hfactors
    rw [held_cons] at hrest
    rw [List.foldr_cons, List.cons_append, held_cons, held_cons, m.amount_concat hleft hfactor,
      ← hrest, add_assoc]

/-- Each union of a level adds what a choice adds, and the concatenations add nothing. -/
theorem held_collapse {level : List Operator} {operands out : List Automaton}
    (h : (Level.collapse level operands).result = .ok out) (hs : ∀ a ∈ operands, Composed a) :
    m.held out = m.held operands + level.count .union • m.bar := by
  induction level, operands using Level.collapse.induct with
  | case1 operands =>
    obtain rfl := Level.collapse_nil_eq_ok.1 h
    simp
  | case2 level operands ih =>
    obtain ⟨right, left, below, rfl, hrest⟩ := Level.collapse_concat_eq_ok.1 h
    simp only [List.forall_mem_cons] at hs
    obtain ⟨hright, hleft, hbelow⟩ := hs
    have hout := ih _ hrest (List.forall_mem_cons.2 ⟨.concat hleft hright, hbelow⟩)
    have hcount : (Operator.concat :: level).count .union = level.count .union := by simp
    rw [hout, hcount, held_cons, held_cons, held_cons, m.amount_concat hleft hright]
    simp only [add_assoc]
  | case3 level operands ih =>
    obtain ⟨right, factors, first, below, rfl, -, hrest⟩ := Level.collapse_union_eq_ok.1 h
    simp only [List.forall_mem_cons, List.forall_mem_append] at hs
    obtain ⟨hright, hfactors, hfirst, hbelow⟩ := hs
    have hleft := Level.forall_foldr Composed.concat hfactors hfirst
    have hout := ih _ hrest (List.forall_mem_cons.2 ⟨.union hleft hright, hbelow⟩)
    have hjoined := m.held_foldr hfactors hfirst below
    rw [held_cons] at hjoined
    have hcount : (Operator.union :: level).count .union
        = (level.dropWhile (· = .concat)).count .union + 1 := by
      rw [List.count_cons_self, Level.count_dropWhile]
    rw [hout, hcount, held_cons, held_cons, m.amount_union hleft hright, ← hjoined, succ_nsmul']
    simp only [add_assoc]

/-- What the operands hold, and what the unions that wait will add. -/
def total (s : Scan) : M := m.held s.operands + s.bars • m.bar

/-- What the operands gain while no union is applied counts in front of what waits. -/
theorem total_of_held {s t : Scan} {x : M} (hbars : t.bars = s.bars)
    (hheld : m.held t.operands = m.held s.operands + x) : m.total t = m.total s + x := by
  have hcomm : s.bars • m.bar + x = x + s.bars • m.bar := (m.bar_comm x).nsmul_left s.bars
  rw [total, total, hbars, hheld, add_assoc, add_assoc, hcomm]

theorem held_repeat {a b : Automaton} {x : M} (h : m.amount b = m.amount a + x)
    (below : List Automaton) : m.held (b :: below) = m.held (a :: below) + x := by
  rw [held_cons, held_cons, h, add_assoc]

/-- Wherever its operators take their operands from, a step adds what its character brings in. -/
theorem total_step {s t : Scan} {c : Char} (h : Scan.Step s c t)
    (hs : ∀ a ∈ s.operands, Composed a) : m.total t = m.total s + m.brought c := by
  cases h with
  | space =>
    have hspace : m.brought ' ' = 0 := rfl
    rw [hspace]
    exact m.total_of_held rfl (add_zero _).symm
  | @star last below top =>
    have hlast : Composed last := hs last (by simp [top])
    have hstar : m.brought '*' = m.star := rfl
    rw [hstar]
    refine m.total_of_held rfl ?_
    rw [top]
    exact m.held_repeat (m.amount_star hlast) below
  | @plus last below top =>
    have hlast : Composed last := hs last (by simp [top])
    have hplus : m.brought '+' = m.plus := rfl
    rw [hplus]
    refine m.total_of_held rfl ?_
    rw [top]
    exact m.held_repeat (m.amount_plus hlast) below
  | opening =>
    have hopening : m.brought '(' = 0 := rfl
    rw [hopening]
    refine m.total_of_held ?_ (add_zero _).symm
    simp only [Scan.bars, List.count_nil, List.flatten_cons, List.count_append, Scan.count_joined,
      Nat.zero_add]
  | @closing level outer operands inside collapsed =>
    have hclosing : m.brought ')' = 0 := rfl
    have hout := m.held_collapse collapsed hs
    rw [hclosing, add_zero]
    -- the unions of the level are applied and no longer wait
    simp only [total, Scan.bars, inside, List.flatten_cons, List.count_append, hout, add_assoc,
      ← add_nsmul]
  | bar =>
    have hbar : m.brought '|' = m.bar := rfl
    rw [hbar]
    -- the new union waits, and adds nothing to the operands so far
    simp only [total, Scan.bars, List.count_cons_self]
    rw [Nat.add_right_comm, succ_nsmul, add_assoc]
  | operand hc =>
    have hoperand : m.brought c = m.amount (.literal c) := by simp [brought, hc]
    rw [hoperand]
    apply m.total_of_held
    · simp only [Scan.bars, Scan.count_joined]
    · exact m.held_cons _ _

theorem total_readAll {s t : Scan} {text : List Char} (h : (s.readAll text).result = .ok t)
    (hs : ∀ a ∈ s.operands, Composed a) : m.total t = m.total s + (text.map m.brought).sum := by
  induction text generalizing s with
  | nil =>
    rw [Scan.readAll_nil_eq_ok.1 h]
    simp
  | cons c text ih =>
    obtain ⟨next, hstep, hrest⟩ := Scan.readAll_cons_eq_ok.1 h
    rw [ih hrest (Scan.composed_step hstep hs), m.total_step hstep hs, List.map_cons, List.sum_cons,
      add_assoc]

/-- After any text that was read without a fault, operands and waiting unions account for it. -/
theorem total_of_readAll {s : Scan} {text : List Char} (h : (({} : Scan).readAll text).result = .ok s) :
    m.total s = (text.map m.brought).sum := by
  have hempty : m.total {} = 0 := by simp [total, held, Scan.bars]
  rw [m.total_readAll h (by simp), hempty, zero_add]

/-- The automaton of an expression holds what the characters of the expression brought in. -/
theorem amount_compile {expression : List Char} {a : Automaton}
    (h : (compile expression).result = .ok a) :
    m.amount a = (expression.map m.brought).sum := by
  obtain ⟨s, hs, hfinish⟩ := Scan.compile_eq_ok.1 h
  have hroom := (Scan.room_readAll hs (Nat.zero_le _)).1
  obtain ⟨houter, collapsed⟩ := Scan.collapse_of_finish hfinish hroom
  have hout := m.held_collapse collapsed (Scan.composed_readAll hs)
  have hbars : s.bars = s.level.count .union := by simp [Scan.bars, houter]
  rw [← m.total_of_readAll hs, total, hbars, ← hout]
  simp [held]

end Quantity

end RegexMachine
