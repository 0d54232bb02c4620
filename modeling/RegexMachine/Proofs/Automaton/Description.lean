import RegexMachine.Automaton.Table

namespace RegexMachine

namespace Label

/-- What the written form shows of a label: the letter ε looks like the free move. -/
def shown (l : Label) : Label := if l = char 'ε' then epsilon else l

/-- The character that the label is written as. -/
def sign : Label → Char
  | char c => c
  | epsilon => 'ε'

theorem toList_text (l : Label) : l.text.toList = [l.sign] := by
  cases l with
  | char c => simp [text, sign]
  | epsilon => rfl

theorem sign_eq_iff {l m : Label} : l.sign = m.sign ↔ l.shown = m.shown := by
  cases l with
  | char c => cases m with
    | char d => by_cases hc : c = 'ε' <;> by_cases hd : d = 'ε' <;> simp [sign, shown, hc, hd, eq_comm]
    | epsilon => simp [sign, shown]
  | epsilon => cases m with
    | char d => simp [sign, shown, eq_comm]
    | epsilon => simp

end Label

/-- The edge with its label as it is shown. -/
def Edge.shown (e : Edge) : Edge := ⟨e.source, e.label.shown, e.target⟩

/-- The automaton with each label as it is shown. -/
def Automaton.shown (a : Automaton) : Automaton := { a with edges := a.edges.map Edge.shown }

/-- Digits end at the first character that is none. -/
theorem digits_append_inj {m n : Nat} {c d : Char} {x y : List Char} (hc : c.isDigit = false)
    (hd : d.isDigit = false) (h : Nat.toDigits 10 m ++ c :: x = Nat.toDigits 10 n ++ d :: y) :
    m = n ∧ c :: x = d :: y := by
  have digits (k : Nat) {b : Char} (z : List Char) (hb : b.isDigit = false) :
      (Nat.toDigits 10 k ++ b :: z).takeWhile Char.isDigit = Nat.toDigits 10 k := by
    have hall : ∀ a ∈ Nat.toDigits 10 k, a.isDigit = true := fun a ha =>
      Nat.isDigit_of_mem_toDigits (by decide) (by decide) ha
    rw [List.takeWhile_append_of_pos hall]
    simp [hb]
  have hdigits : Nat.toDigits 10 m = Nat.toDigits 10 n := by
    rw [← digits m x hc, h, digits n y hd]
  have hnumber := congrArg (Nat.ofDigitChars 10 · 0) hdigits
  rw [hdigits] at h
  exact ⟨by simpa using hnumber, List.append_cancel_left h⟩

namespace Edge

theorem toList_text (e : Edge) : e.text.toList =
    '(' :: (Nat.toDigits 10 e.source ++ ',' :: ' ' :: e.label.sign :: ',' :: ' ' ::
      (Nat.toDigits 10 e.target ++ [')'])) := by
  simp [text, Label.toList_text]

/-- What is written of an edge is found again, whatever is written behind it. -/
theorem text_append_inj {e f : Edge} {x y : List Char}
    (h : e.text.toList ++ x = f.text.toList ++ y) : e.shown = f.shown ∧ x = y := by
  simp only [toList_text, List.cons_append, List.append_assoc, List.cons.injEq, true_and] at h
  obtain ⟨hsource, h⟩ := digits_append_inj (by decide) (by decide) h
  simp only [List.cons.injEq, true_and] at h
  obtain ⟨hsign, h⟩ := h
  obtain ⟨htarget, h⟩ := digits_append_inj (by decide) (by decide) h
  have hlabel := Label.sign_eq_iff.1 hsign
  exact ⟨by simp [shown, hsource, hlabel, htarget], by simpa using h⟩

theorem text_eq_of_shown {e f : Edge} (h : e.shown = f.shown) : e.text = f.text := by
  simp only [shown, mk.injEq] at h
  obtain ⟨hsource, hlabel, htarget⟩ := h
  rw [← String.toList_inj, toList_text, toList_text, hsource, htarget, Label.sign_eq_iff.2 hlabel]

end Edge

namespace Automaton

variable {a b : Automaton}

theorem table_eq_iff : a.table = b.table ↔ a.shown.edges = b.shown.edges := by
  obtain ⟨_, edges, _, _⟩ := a
  obtain ⟨_, others, _, _⟩ := b
  simp only [table, shown]
  induction edges generalizing others with
  | nil =>
    cases others with
    | nil => simp
    | cons f others => simp [← String.toList_inj, Edge.toList_text]
  | cons e edges ih =>
    cases others with
    | nil => simp [← String.toList_inj, Edge.toList_text]
    | cons f others =>
      simp only [List.map_cons, String.join_cons, List.cons.injEq, ← ih]
      apply Iff.intro
      · intro h
        have hlists := congrArg String.toList h
        simp only [String.toList_append, List.append_assoc] at hlists
        obtain ⟨hedge, hrest⟩ := Edge.text_append_inj hlists
        rw [List.append_cancel_left_eq, String.toList_inj] at hrest
        exact ⟨hedge, hrest⟩
      · intro h
        obtain ⟨hedge, hrest⟩ := h
        rw [Edge.text_eq_of_shown hedge, hrest]

theorem toList_description (a : Automaton) : a.description.toList =
    "Start state: ".toList ++ (Nat.toDigits 10 a.start ++ '\n' :: ("Accept state: ".toList ++
      (Nat.toDigits 10 a.accept ++ '\n' :: ("States: ".toList ++
        (Nat.toDigits 10 a.states ++ '\n' :: a.table.toList))))) := by
  have haccept : "\nAccept state: ".toList = '\n' :: "Accept state: ".toList := rfl
  have hstates : "\nStates: ".toList = '\n' :: "States: ".toList := rfl
  have hend : "\n".toList = ['\n'] := rfl
  unfold description
  simp only [String.toList_append, Nat.toString_eq_repr, Nat.toList_repr, haccept, hstates, hend,
    List.append_assoc, List.cons_append, List.nil_append]

/-- Two automata are written alike if and only if they are the same once the letter ε is taken for the
free move, and their tables are if their edges are the same then. The labels may be any characters, also
those that the written form itself is made of. -/
theorem description_determines (a b : Automaton) :
    (a.description = b.description ↔ a.shown = b.shown) ∧
    (a.table = b.table ↔ a.shown.edges = b.shown.edges) := by
  refine ⟨?_, table_eq_iff⟩
  apply Iff.intro
  · intro h
    rw [← String.toList_inj, toList_description, toList_description, List.append_cancel_left_eq] at h
    obtain ⟨hstart, h⟩ := digits_append_inj (by decide) (by decide) h
    rw [List.cons.injEq, List.append_cancel_left_eq] at h
    obtain ⟨haccept, h⟩ := digits_append_inj (by decide) (by decide) h.2
    rw [List.cons.injEq, List.append_cancel_left_eq] at h
    obtain ⟨hstates, h⟩ := digits_append_inj (by decide) (by decide) h.2
    rw [List.cons.injEq, String.toList_inj] at h
    have hedges := table_eq_iff.1 h.2
    simp only [shown, mk.injEq] at hedges ⊢
    exact ⟨hstates, hedges, hstart, haccept⟩
  · intro h
    have htable : a.table = b.table := table_eq_iff.2 (congrArg edges h)
    simp only [shown, mk.injEq] at h
    obtain ⟨hstates, -, hstart, haccept⟩ := h
    rw [← String.toList_inj, toList_description, toList_description, hstart, haccept, hstates, htable]

end Automaton

end RegexMachine
