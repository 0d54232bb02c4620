import RegexMachine.Expression.Grammar

namespace RegexMachine

/-- The text is a parse of some choice. -/
def Derivable (text : List Char) : Prop := ∃ t : Tree .choice, t.text = text

/-- What may only stand behind an operand. -/
def needsOperand (c : Char) : Prop := c = '*' ∨ c = '+' ∨ c = ')' ∨ c = '|'

instance : DecidablePred needsOperand := fun c =>
  inferInstanceAs (Decidable (c = '*' ∨ c = '+' ∨ c = ')' ∨ c = '|'))

theorem not_needsOperand {c : Char} (hc : isOperand c = true) : ¬needsOperand c := by
  intro h
  simp only [needsOperand] at h
  rcases h with h | h | h | h
  all_goals exact isOperand_ne hc (by decide) h

/-- The text ends an expression in which so many groups are open. The flag tells whether the part
before the text ends with an operand. -/
inductive Completes : Bool → Nat → List Char → Prop
  | done : Completes true 0 []
  | operand {joins : Bool} {depth : Nat} {c : Char} {rest : List Char}
      (hc : isOperand c = true) (h : Completes true depth rest) : Completes joins depth (c :: rest)
  | opening {joins : Bool} {depth : Nat} {rest : List Char}
      (h : Completes false (depth + 1) rest) : Completes joins depth ('(' :: rest)
  | closing {depth : Nat} {rest : List Char}
      (h : Completes true depth rest) : Completes true (depth + 1) (')' :: rest)
  | bar {depth : Nat} {rest : List Char}
      (h : Completes false depth rest) : Completes true depth ('|' :: rest)
  | star {depth : Nat} {rest : List Char}
      (h : Completes true depth rest) : Completes true depth ('*' :: rest)
  | plus {depth : Nat} {rest : List Char}
      (h : Completes true depth rest) : Completes true depth ('+' :: rest)

namespace Tree

/-- Puts a repetition in front of the first alternative. -/
def prepend (item : Tree .repetition) : Tree .choice → Tree .choice
  | only first => only (followed item first)
  | either first rest => either (followed item first) rest

theorem text_prepend (item : Tree .repetition) (t : Tree .choice) :
    (prepend item t).text = item.text ++ t.text := by
  cases t with
  | only first => rfl
  | either first rest => exact List.append_assoc _ _ _

end Tree

/-- What is left after the innermost open group: nothing, or its end and what completes the rest. -/
def Ends : Nat → List Char → Prop
  | 0, text => text = []
  | depth + 1, text => ∃ tail, text = ')' :: tail ∧ Completes true depth tail

/-- A parse that goes on from `item`, the repetition just read, if there is one. -/
theorem exists_parse {text : List Char} {depth : Nat} (item : Option (Tree .repetition))
    (h : Completes item.isSome depth text) :
    ∃ (t : Tree .choice) (rest : List Char),
      t.text ++ rest = (item.elim [] Tree.text) ++ text ∧ Ends depth rest := by
  -- on the length, since a group is read as a whole before the text behind it
  induction hn : text.length using Nat.strongRecOn generalizing text depth item with
  | ind n ih =>
    subst hn
    have extend {tail : List Char} (next : Tree .repetition) (hlt : tail.length < text.length)
        (hnext : Completes true depth tail) (htext : next.text ++ tail = text) :
        ∃ (t : Tree .choice) (rest : List Char),
          t.text ++ rest = (item.elim [] Tree.text) ++ text ∧ Ends depth rest := by
      obtain ⟨t, rest, ht, hrest⟩ := ih tail.length hlt (some next) hnext rfl
      cases item with
      | none => exact ⟨t, rest, ht.trans htext, hrest⟩
      | some item =>
        refine ⟨item.prepend t, rest, ?_, hrest⟩
        rw [Tree.text_prepend, List.append_assoc, ht]
        exact congrArg (item.text ++ ·) htext
    generalize hjoins : item.isSome = joins at h
    cases h with
    | done =>
      obtain ⟨last, rfl⟩ := Option.isSome_iff_exists.1 hjoins
      exact ⟨.only (.final last), [], rfl, rfl⟩
    | operand hc h => exact extend (.once (.operand _ hc)) (Nat.lt_succ_self _) h rfl
    | @opening _ _ rest h =>
      obtain ⟨inner, _, hinner, tail, rfl, htail⟩ := ih rest.length (Nat.lt_succ_self _) none h rfl
      have hlt : tail.length < ('(' :: rest).length := by
        have hlength := congrArg List.length hinner
        simp only [List.length_append, List.length_cons, Option.elim_none, List.nil_append]
          at hlength ⊢
        omega
      refine extend (.once (.group inner)) hlt htail ?_
      simpa [Tree.text] using hinner
    | closing h =>
      obtain ⟨last, rfl⟩ := Option.isSome_iff_exists.1 hjoins
      exact ⟨.only (.final last), _, rfl, _, rfl, h⟩
    | @bar _ rest h =>
      obtain ⟨last, rfl⟩ := Option.isSome_iff_exists.1 hjoins
      obtain ⟨t, tail, ht, htail⟩ := ih rest.length (Nat.lt_succ_self _) none h rfl
      refine ⟨.either (.final last) t, tail, ?_, htail⟩
      simp only [Tree.text, List.append_assoc, List.cons_append, ht]
      rfl
    | @star _ rest h =>
      obtain ⟨last, rfl⟩ := Option.isSome_iff_exists.1 hjoins
      obtain ⟨t, tail, ht, htail⟩ := ih rest.length (Nat.lt_succ_self _) (some (.star last)) h rfl
      refine ⟨t, tail, ?_, htail⟩
      simpa [Tree.text] using ht
    | @plus _ rest h =>
      obtain ⟨last, rfl⟩ := Option.isSome_iff_exists.1 hjoins
      obtain ⟨t, tail, ht, htail⟩ := ih rest.length (Nat.lt_succ_self _) (some (.plus last)) h rfl
      refine ⟨t, tail, ?_, htail⟩
      simpa [Tree.text] using ht

theorem completes_text {p : Phrase} (t : Tree p) {joins : Bool} {depth : Nat} {rest : List Char}
    (h : Completes true depth rest) : Completes joins depth (t.text ++ rest) := by
  induction t generalizing joins depth rest with
  | operand c hc => exact .operand hc h
  | group inner ih => simpa [Tree.text] using .opening (ih (.closing h))
  | once item ih => exact ih h
  | star item ih => simpa [Tree.text] using ih (.star h)
  | plus item ih => simpa [Tree.text] using ih (.plus h)
  | final item ih => exact ih h
  | followed item rest ihi ihr => simpa [Tree.text] using ihi (ihr h)
  | only item ih => exact ih h
  | either item rest ihi ihr => simpa [Tree.text] using ihi (.bar (ihr h))

theorem completes_iff_derivable {text : List Char} : Completes false 0 text ↔ Derivable text := by
  apply Iff.intro
  · intro h
    obtain ⟨t, rest, ht, rfl⟩ := exists_parse none h
    exact ⟨t, by simpa using ht⟩
  · intro h
    obtain ⟨t, rfl⟩ := h
    have hwhole : Completes false 0 (t.text ++ []) := completes_text t .done
    rwa [List.append_nil] at hwhole

end RegexMachine
