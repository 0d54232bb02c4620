import RegexMachine.Proofs.Scan.Balance
import RegexMachine.Proofs.Scan.Stack

namespace RegexMachine

/-- Whatever in the text needs an operand before it is read right behind one. -/
def StackScan.Supplied (s : StackScan) (text : List Char) : Prop :=
  ∀ before c after mid, text = before ++ c :: after → (s.readAll before).result = .ok mid →
    needsOperand c → mid.joins = true

theorem Waiting.count_level (level : List Operator) :
    (level.map Waiting.operator).count .paren = 0 ∧
      (level.map Waiting.operator).count (.operator .concat)
        + (level.map Waiting.operator).count (.operator .union) = level.length := by
  induction level with
  | nil => exact ⟨rfl, rfl⟩
  | cons operator level ih => cases operator <;> simp <;> omega

/-- Whether a character that means something ends an operand. -/
def endsOperand (c : Char) : Bool := isOperand c || c = '*' || c = '+' || c = ')'

namespace Scan

variable {s t : Scan} {c : Char} {text : List Char}

/-- The part of the one stack below the innermost level. -/
theorem count_outer (outer : List (List Operator)) :
    let below := outer.flatMap fun level => Waiting.paren :: level.map .operator
    below.count .paren = outer.length ∧
      below.count (.operator .concat) + below.count (.operator .union) = outer.flatten.length := by
  induction outer with
  | nil => exact ⟨rfl, rfl⟩
  | cons level outer ih =>
    obtain ⟨hparen, hbinary⟩ := Waiting.count_level level
    obtain ⟨hparens, hbinaries⟩ := ih
    simp only [List.flatMap_cons, List.cons_append, List.count_cons_self,
      List.count_cons_of_ne (by decide : Waiting.paren ≠ .operator .concat),
      List.count_cons_of_ne (by decide : Waiting.paren ≠ .operator .union), List.count_append,
      List.flatten_cons, List.length_append, List.length_cons, hparen, hparens]
    omega

/-- The one stack holds a parenthesis for each open group, and the operators of all levels. -/
theorem count_operators (s : Scan) :
    s.flatten.operators.count .paren = s.depth ∧
      s.flatten.operators.count (.operator .concat) + s.flatten.operators.count (.operator .union)
        = s.binary := by
  obtain ⟨hparen, hbinary⟩ := Waiting.count_level s.level
  obtain ⟨hparens, hbinaries⟩ := count_outer s.outer
  simp only [flatten, List.count_append, hparen, hparens, depth, binary]
  omega

theorem depth_step (h : Step s c t) :
    t.depth + [c].count ')' = s.depth + [c].count '(' := by
  cases h with
  | space => rfl
  | star => rfl
  | plus => rfl
  | opening => rfl
  | closing inside => simp [depth, inside]
  | bar => rfl
  | operand hc =>
    have hopen := isOperand_ne hc (d := '(') (by decide)
    have hclose := isOperand_ne hc (d := ')') (by decide)
    simp [depth, hopen, hclose]

/-- A group is open after a text for each parenthesis that was opened and not closed. -/
theorem depth_readAll (h : (s.readAll text).result = .ok t) :
    t.depth + text.count ')' = s.depth + text.count '(' := by
  induction text generalizing s with
  | nil => rw [readAll_nil_eq_ok.1 h]; rfl
  | cons c text ih =>
    obtain ⟨next, hstep, hrest⟩ := readAll_cons_eq_ok.1 h
    have hc := depth_step hstep
    have hdepth := ih hrest
    rw [← List.singleton_append, List.count_append, List.count_append]
    omega

theorem joins_step (h : Step s c t) (hc : c ≠ ' ') : t.joins = endsOperand c := by
  cases h with
  | space => exact absurd rfl hc
  | star => rfl
  | plus => rfl
  | opening =>
    have hopening : endsOperand '(' = false := by decide
    exact hopening.symm
  | closing => rfl
  | bar =>
    have hbar : endsOperand '|' = false := by decide
    exact hbar.symm
  | operand hc => simp [endsOperand, hc]

theorem joins_readAll (h : (s.readAll text).result = .ok t) :
    t.joins = (withoutSpaces text).getLast?.elim s.joins endsOperand := by
  induction text generalizing s with
  | nil => rw [readAll_nil_eq_ok.1 h]; rfl
  | cons c text ih =>
    obtain ⟨next, hstep, hrest⟩ := readAll_cons_eq_ok.1 h
    rw [ih hrest]
    by_cases hc : c = ' '
    · subst hc
      cases hstep with
      | space => rfl
      | operand hc => cases hc
    · rw [withoutSpaces_cons hc, List.getLast?_cons, joins_step hstep hc]
      cases (withoutSpaces text).getLast? <;> rfl

theorem operands_step (h : Step s c t) :
    t.operands = [] ↔ s.operands = [] ∧ isOperand c = false := by
  cases h with
  | space => simp [isOperand_eq_false_of_isSpecial (c := ' ') rfl]
  | star top => simp [top]
  | plus top => simp [top]
  | opening => simp [isOperand_eq_false_of_isSpecial (c := '(') rfl]
  | closing inside collapsed =>
    simp [Level.collapse_eq_nil_iff collapsed, isOperand_eq_false_of_isSpecial (c := ')') rfl]
  | bar => simp [isOperand_eq_false_of_isSpecial (c := '|') rfl]
  | operand hc => simp [hc]

theorem operands_readAll (h : (s.readAll text).result = .ok t) :
    t.operands = [] ↔ s.operands = [] ∧ ∀ c ∈ text, isOperand c = false := by
  induction text generalizing s with
  | nil => simp [readAll_nil_eq_ok.1 h]
  | cons c text ih =>
    obtain ⟨next, hstep, hrest⟩ := readAll_cons_eq_ok.1 h
    rw [ih hrest, operands_step hstep, List.forall_mem_cons, and_assoc]

theorem supplied_cons {next : Scan} (h : Step s c next) :
    s.flatten.Supplied (c :: text) ↔
      (needsOperand c → s.joins = true) ∧ next.flatten.Supplied text := by
  apply Iff.intro
  · intro hs
    refine ⟨hs [] c text s.flatten rfl rfl, ?_⟩
    intro before d after mid htext hread
    obtain ⟨t, ht, hflat⟩ := flatten_readAll_eq_ok.1 hread
    have hread := flatten_readAll_eq_ok.2 ⟨t, readAll_cons_eq_ok.2 ⟨next, h, ht⟩, hflat⟩
    exact hs (c :: before) d after mid (by rw [htext]; rfl) hread
  · intro hs before d after mid htext hread
    obtain ⟨hc, hrest⟩ := hs
    obtain ⟨t, ht, hflat⟩ := flatten_readAll_eq_ok.1 hread
    cases before with
    | nil =>
      obtain ⟨rfl, rfl⟩ := List.cons.inj htext
      rw [← hflat, ← readAll_nil_eq_ok.1 ht]
      exact hc
    | cons b before =>
      obtain ⟨rfl, rfl⟩ := List.cons.inj htext
      obtain ⟨other, hother, hmid⟩ := readAll_cons_eq_ok.1 ht
      rw [step_unique hother h] at hmid
      exact hrest before d after mid rfl (flatten_readAll_eq_ok.2 ⟨t, hmid, hflat⟩)

theorem room_readAll (h : (s.readAll text).result = .ok t) (hs : s.operands.length ≤ s.room) :
    t.operands.length ≤ t.room ∧
      (t.operands.length = t.room ↔ s.operands.length = s.room ∧ s.flatten.Supplied text) := by
  induction text generalizing s with
  | nil =>
    rw [readAll_nil_eq_ok.1 h] at hs ⊢
    have hsupplied : t.flatten.Supplied [] := by
      intro before c after mid htext
      simp at htext
    exact ⟨hs, by simp [hsupplied]⟩
  | cons c text ih =>
    obtain ⟨next, hstep, hrest⟩ := readAll_cons_eq_ok.1 h
    obtain ⟨hnext, hstepIff⟩ := step_room hstep hs
    obtain ⟨ht, hiff⟩ := ih hrest hnext
    refine ⟨ht, ?_⟩
    rw [hiff, hstepIff, supplied_cons hstep, and_assoc]

/-- An end without a fault leaves one operand, and that is the result. -/
theorem collapse_of_finish {a : Automaton} (h : s.finish.result = .ok a)
    (hs : s.operands.length ≤ s.room) :
    s.outer = [] ∧ (Level.collapse s.level s.operands).result = .ok [a] := by
  obtain ⟨houter, below, collapsed⟩ := finish_eq_ok.1 h
  obtain ⟨hroom, hjoins, -⟩ := finish_room h hs
  have hlength := Level.length_collapse collapsed
  simp only [room, binary, houter, hjoins, List.flatten_nil, List.length_nil, Bool.toNat_true,
    List.length_cons] at hroom hlength
  have hbelow : below = [] := List.eq_nil_of_length_eq_zero (by omega)
  rw [hbelow] at collapsed
  exact ⟨houter, collapsed⟩

end Scan

namespace StackScan

variable {s : StackScan} {text : List Char}

/-- After any text that was read without a fault, well formed or not: the counter of open groups agrees with
the parentheses on the stack and with those that the text opened and did not close; another operand would be
joined if the text ends with one; some operand is held if the text holds one; and there are at most as many
operands as the operators that wait have room for, fewer if and only if an operand was missing somewhere. An
end without a fault then leaves one operand. -/
theorem counts_of_readAll (h : (({} : StackScan).readAll text).result = .ok s) :
    (s.depth = s.operators.count .paren ∧ (s.depth : Int) = text.count '(' - text.count ')') ∧
    (s.joins = true ↔ ∃ c, (withoutSpaces text).getLast? = some c ∧ endsOperand c = true) ∧
    (s.operands = [] ↔ ∀ c ∈ text, isOperand c = false) ∧
    (s.operands.length ≤ s.operators.count (.operator .concat)
        + s.operators.count (.operator .union) + (if s.joins = true then 1 else 0) ∧
      (s.operands.length = s.operators.count (.operator .concat)
          + s.operators.count (.operator .union) + (if s.joins = true then 1 else 0) ↔
        Supplied {} text)) ∧
    ∀ a, s.finish.result = .ok a → (reduce s.operators s.operands).result = .ok ([], [a]) := by
  obtain ⟨t, ht, rfl⟩ := Scan.flatten_readAll_eq_ok (s := {}).1 h
  obtain ⟨hparens, hbinary⟩ := t.count_operators
  obtain ⟨hle, hroom⟩ := Scan.room_readAll ht (Nat.zero_le _)
  have htoNat : (if t.joins = true then 1 else 0) = t.joins.toNat := by cases t.joins <;> rfl
  have hjoins : t.flatten.joins = t.joins := rfl
  have hoperands : t.flatten.operands = t.operands := rfl
  have hdepth : t.flatten.depth = t.depth := rfl
  rw [hbinary, hjoins, hoperands, hdepth, htoNat]
  refine ⟨⟨hparens.symm, ?_⟩, ?_, ?_, ⟨hle, ?_⟩, ?_⟩
  · have hread := Scan.depth_readAll ht
    have hzero : ({} : Scan).depth = 0 := rfl
    omega
  · rw [Scan.joins_readAll ht]
    cases (withoutSpaces text).getLast? <;> simp
  · simpa using Scan.operands_readAll ht
  · have hempty : ({} : Scan).flatten = {} := rfl
    simpa [Scan.room, Scan.binary, hempty] using hroom
  · intro a hfinish
    rw [Scan.finish_flatten] at hfinish
    obtain ⟨houter, collapsed⟩ := Scan.collapse_of_finish hfinish hle
    rw [← hoperands, Scan.reduce_flatten, houter, map_eq_pure_bind, Logged.result_bind_of_ok collapsed]
    rfl

/-- Behind a parenthesis, a bar lacks its left operand; without one, nothing is lacking. -/
theorem counts_missing_alternative :
    (∃ s, (({} : StackScan).readAll "(|a".toList).result = .ok s ∧ s.depth = 1 ∧
      s.operands ≠ [] ∧ s.operands.length ≠ s.operators.count (.operator .concat)
        + s.operators.count (.operator .union) + 1) ∧
    ∃ s, (({} : StackScan).readAll "ab".toList).result = .ok s ∧
      s.finish.result = .ok (.concat (.literal 'a') (.literal 'b')) ∧
      (reduce s.operators s.operands).result
        = .ok ([], [.concat (.literal 'a') (.literal 'b')]) := by
  apply And.intro
  · have hread : (({} : StackScan).readAll "(|a".toList).result = .ok
        ⟨[.literal 'a'], [.operator .union, .paren], true, 1, 3⟩ := rfl
    obtain ⟨⟨hdepth, -⟩, -, hoperands, ⟨-, hsupplied⟩, -⟩ := counts_of_readAll hread
    refine ⟨_, hread, hdepth.trans (by decide), ?_, ?_⟩
    · intro hnone
      have ha : isOperand 'a' = false := hoperands.1 hnone 'a' (by simp)
      cases ha
    · intro hroom
      have hjoins : false = true :=
        hsupplied.1 hroom ['('] '|' ['a'] ⟨[], [.paren], false, 1, 1⟩ rfl rfl (by decide)
      cases hjoins
  · have hread : (({} : StackScan).readAll "ab".toList).result = .ok
        ⟨[.literal 'b', .literal 'a'], [.operator .concat], true, 0, 2⟩ := rfl
    have hfinish : (StackScan.mk [.literal 'b', .literal 'a'] [.operator .concat] true 0 2).finish.result
        = .ok (.concat (.literal 'a') (.literal 'b')) := by decide +kernel
    obtain ⟨-, -, -, -, hend⟩ := counts_of_readAll hread
    exact ⟨_, hread, hfinish, hend _ hfinish⟩

end StackScan

end RegexMachine
