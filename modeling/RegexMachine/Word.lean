namespace RegexMachine

/-- How a program was built: with its sums and assertions checked, or without. -/
inductive Build where
  | checked
  | unchecked
  deriving DecidableEq

namespace Word

/-- A machine word holds the numbers below this one. -/
def size : Nat := UInt64.size

/-- A block of memory has fewer bytes than this, so a text has fewer characters. -/
def blockSize : Nat := size / 2

variable {α : Type} {x : Option α} {v w : α} {n : Nat}

/-- What yields `v` if `n` is a word and stops otherwise. -/
theorem eq_some_iff (fits : n < size → x = some v) (overflows : size ≤ n → x = none) :
    x = some w ↔ n < size ∧ v = w := by
  by_cases h : n < size
  · simp [fits h, h]
  · simp [overflows (Nat.le_of_not_lt h), h]

theorem eq_none_iff (fits : n < size → x = some v) (overflows : size ≤ n → x = none) :
    x = none ↔ size ≤ n := by
  by_cases h : n < size
  · simp [fits h, Nat.not_le.2 h]
  · simp [overflows (Nat.le_of_not_lt h), Nat.le_of_not_lt h]

end Word

namespace Build

variable {k : Build} {m n : Nat}

/-- The sum of two words. If it is no word, a checked build stops and an unchecked one keeps the
remainder. -/
def add? : Build → Nat → Nat → Option Nat
  | checked, m, n => if m + n < Word.size then some (m + n) else none
  | unchecked, m, n => some ((m + n) % Word.size)

/-- The word before `n`. Before zero a checked build stops, and an unchecked one goes on with the last
word. -/
def pred? : Build → Nat → Option Nat
  | _, n + 1 => some n
  | checked, 0 => none
  | unchecked, 0 => some (Word.size - 1)

/-- Stops a checked build unless `p` holds. -/
def assert? : Build → Bool → Option Unit
  | checked, p => if p then some () else none
  | unchecked, _ => some ()

theorem add?_of_lt (h : m + n < Word.size) : k.add? m n = some (m + n) := by
  cases k with
  | checked => exact if_pos h
  | unchecked => exact congrArg some (Nat.mod_eq_of_lt h)

theorem add?_eq_none (h : Word.size ≤ m + n) : checked.add? m n = none := if_neg (Nat.not_lt.2 h)

theorem pred?_of_pos (h : 0 < n) : k.pred? n = some (n - 1) := by
  cases n with
  | zero => cases h
  | succ n => cases k <;> rfl

theorem assert?_of {p : Bool} (h : p = true) : k.assert? p = some () := by
  cases k with
  | checked => exact if_pos h
  | unchecked => rfl

end Build

end RegexMachine
